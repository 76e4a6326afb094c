import AccessPolicy.Policy.Record
import AccessPolicy.Proofs.Documents.Effects
import AccessPolicy.Request

namespace AccessPolicy

open Json

namespace Request

structure Stored (r : Request) : Prop where
  time : r.time.Writable
  metadata : Value.Stored r.metadata

def Same (q r : Request) : Prop := ∃ es, Value.Alike es r.metadata ∧ q = { r with metadata := es }

def numbers (r : Request) : List Binary64 := Value.entryNumbers r.metadata.toList

def listing (r : Request) (l : List (String × Value)) : Json := .object [
  ("user_id", .int r.user.toNat),
  ("tenant_id", .int r.tenant.toNat),
  ("workspace_id", match r.workspace with
    | some n => .int n.toNat
    | none => .null),
  ("resource", .text r.resource),
  ("action", .text r.action),
  ("resource_id", .text r.resourceId),
  ("time", .text r.time.documentText),
  ("ip", .text r.ip),
  ("user_agent", .text r.userAgent),
  ("metadata", .object (Value.entriesToJson l))
]

theorem toJson_eq_listing (r : Request) : r.toJson = r.listing r.metadata.toList := rfl

theorem stored_of_decoder {n : Node} {r : Request} (h : decoder n = .ok r) : r.Stored := by
  refine record_keeps (P := Stored) ?_ h ⟨Timestamp.writable_default, Value.stored_empty⟩
  simp only [fields, List.forall_mem_cons, List.not_mem_nil, false_implies, implies_true, and_true]
  and_intros
  all_goals try exact Field.keeps_of_read rfl fun _ _ _ _ h => ⟨h.time, h.metadata⟩
  · refine Field.keeps_of_read rfl fun _ t ht _ h => ⟨?_, h.metadata⟩
    obtain ⟨s, hs⟩ := Decoder.exists_of_timestamp ht
    exact Timestamp.writable_of_ofText hs
  · exact Field.keeps_of_read rfl fun _ _ hes _ h => ⟨h.time, Value.stored_of_entries hes⟩

theorem exists_decoder_listing {r : Request} {l : List (String × Value)} (h : r.Stored) (hd : Durable r.numbers)
    (hl : l.Perm r.metadata.toList) : ∃ q, decoder (r.listing l).node = .ok q ∧ q.Same r := by
  obtain ⟨es, hes, halike⟩ := Value.exists_alike h.metadata hd hl
  refine ⟨{ r with metadata := es }, record_of_fills (by decide) ?_, es, halike, rfl⟩
  have hworkspace : Decoder.option Decoder.uint64 (match r.workspace with
      | some n => Json.int n.toNat
      | none => Json.null).node = .ok r.workspace := by
    cases r.workspace with
    | none => rfl
    | some n => exact Decoder.option_of_ok (node_int_ne_null _) (Decoder.uint64_node n)
  refine .needed (Decoder.uint64_node r.user) (.needed (Decoder.uint64_node r.tenant) ?_)
  refine .optional hworkspace (.needed rfl (.needed rfl (.optional rfl ?_)))
  refine .needed (Decoder.timestamp_node h.time) (.optional rfl (.optional rfl ?_))
  exact .optional hes (.done _)

theorem stored_of_decode {s : String} {r : Request} (h : decode s = .ok r) : r.Stored := by
  obtain ⟨n, hn⟩ := exists_of_decode h
  exact stored_of_decoder hn

end Request

namespace PolicyRecord

structure Stored (r : PolicyRecord) : Prop where
  createdAt : r.createdAt.Writable
  updatedAt : ∀ t ∈ r.updatedAt, t.Writable

theorem stored_of_decoder {n : Node} {r : PolicyRecord} (h : decoder n = .ok r) : r.Stored := by
  refine record_keeps (P := Stored) ?_ h ⟨Timestamp.writable_default, by simp [blank]⟩
  simp only [fields, List.forall_mem_cons, List.not_mem_nil, false_implies, implies_true, and_true]
  and_intros
  all_goals try exact Field.keeps_of_read rfl fun _ _ _ _ h => ⟨h.createdAt, h.updatedAt⟩
  · refine Field.keeps_of_read rfl fun _ t ht _ h => ⟨?_, h.updatedAt⟩
    obtain ⟨s, hs⟩ := Decoder.exists_of_instant ht
    exact Instant.writable_of_ofText hs
  · refine Field.keeps_of_read rfl fun _ x hx _ h => ⟨h.createdAt, Decoder.forall_mem_of_option hx fun t ht => ?_⟩
    obtain ⟨s, hs⟩ := Decoder.exists_of_instant ht
    exact Instant.writable_of_ofText hs

theorem decoder_toJson {r : PolicyRecord} (h : r.Stored) : decoder r.toJson.node = .ok r := by
  have hupdated := rel_of_rereads fun t ht => Decoder.instant_node (h.updatedAt t ht)
  refine record_of_fills (by decide) ?_
  simp only [memberNodes_append]
  rw [← List.append_nil (memberNodes (Effect.member "updated_at" _ _))]
  refine .needed (Decoder.uint64_node r.id) (.needed (Decoder.uint64_node r.tenant) (.needed rfl ?_))
  refine .optional rfl (.needed rfl (.optional (Decoder.int64_node r.priority) ?_))
  refine .optional rfl (.optional rfl (.optional rfl (.needed (Decoder.instant_node h.createdAt) ?_)))
  exact .member_of_option hupdated (fun _ => node_text_ne_null _) rfl (.done _)

theorem stored_of_decode {s : String} {r : PolicyRecord} (h : decode s = .ok r) : r.Stored := by
  obtain ⟨n, hn⟩ := exists_of_decode h
  exact stored_of_decoder hn

end PolicyRecord

end AccessPolicy
