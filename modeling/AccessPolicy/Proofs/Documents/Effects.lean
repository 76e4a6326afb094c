import AccessPolicy.Proofs.Documents.Scalars
import AccessPolicy.Proofs.Time.Window
import AccessPolicy.Proofs.Value.Rereading

namespace AccessPolicy

open Json

namespace Json

variable {α β γ : Type} {fs : List (Field Node α)} {ms : List (Option String × Node)} {a b : α}

theorem Fills.written_or_omitted {name : String} {d : Decoder γ} {set : γ → α → α} {members : List (String × Json)}
    {c : γ} (h : (∃ v, members = [(name, v)] ∧ d v.node = .ok c) ∨ members = [] ∧ set c a = a)
    (hrest : Fills fs ms (set c a) b) : Fills (.optional name d set :: fs) (memberNodes members ++ ms) a b := by
  rcases h with ⟨v, rfl, hread⟩ | ⟨rfl, hset⟩
  · exact .optional hread hrest
  · rw [hset] at hrest
    exact .omitted rfl hrest

theorem Fills.member_of_option {name : String} {d : Decoder γ} {set : Option γ → α → α} {f : β → Json}
    {x : Option β} {y : Option γ} (hread : Option.Rel (fun e c => d (f c).node = .ok e) y x)
    (hnull : ∀ c, (f c).node ≠ .null) (hnone : set none a = a) (hrest : Fills fs ms (set y a) b) :
    Fills (.optional name (Decoder.option d) set :: fs) (memberNodes (Effect.member name f x) ++ ms) a b := by
  refine .written_or_omitted ?_ hrest
  cases hread with
  | none => exact .inr ⟨rfl, hnone⟩
  | some h => exact .inl ⟨_, rfl, Decoder.option_of_ok (hnull _) h⟩

theorem rel_of_rereads {d : Decoder β} {f : β → Json} {x : Option β} (h : ∀ c ∈ x, d (f c).node = .ok c) :
    Option.Rel (fun e c => d (f c).node = .ok e) x x := by
  cases x with
  | none => exact .none
  | some c => exact .some (h c rfl)

end Json

namespace Quota

def Stored (q : Quota) : Prop := ∃ s, q.period = .ofName s

theorem stored_of_decoder {n : Node} {q : Quota} (h : decoder n = .ok q) : q.Stored := by
  refine record_keeps (P := Stored) ?_ h ⟨"", rfl⟩
  simp only [fields, List.forall_mem_cons, List.not_mem_nil, false_implies, implies_true, and_true]
  exact ⟨Field.keeps_of_read rfl fun _ _ _ _ h => h, Field.keeps_of_read rfl fun _ _ _ _ h => h,
    Field.keeps_of_read rfl fun _ s _ _ _ => ⟨s.getD "", rfl⟩, Field.keeps_of_read rfl fun _ _ _ _ h => h⟩

theorem decoder_toJson {q : Quota} (h : q.Stored) : decoder q.toJson.node = .ok q := by
  obtain ⟨resource, limit, _, unit⟩ := q
  obtain ⟨s, rfl⟩ := h
  refine record_of_fills (by decide) ?_
  simp only [Period.name_ofName]
  exact .optional rfl (.optional (Decoder.int64_node limit) (.optional rfl (.optional rfl (.done _))))

end Quota

namespace RateLimit

def Stored (l : RateLimit) : Prop := l.window.nanos ≤ Int64.maxValue.toInt

theorem stored_of_decoder {n : Node} {l : RateLimit} (h : decoder n = .ok l) : l.Stored := by
  have hmax : 0 ≤ Int64.maxValue.toInt := by decide
  refine record_keeps (P := Stored) ?_ h hmax
  simp only [fields, List.forall_mem_cons, List.not_mem_nil, false_implies, implies_true, and_true]
  refine ⟨Field.keeps_of_read rfl fun _ _ _ _ h => h, Field.keeps_of_read rfl fun _ i _ _ _ => ?_⟩
  have hi : i.toInt ≤ Int64.maxValue.toInt := i.toInt_le
  show ((i.toInt.toNat : Nat) : Int) ≤ Int64.maxValue.toInt
  omega

theorem decoder_toJson {l : RateLimit} (h : l.Stored) : decoder l.toJson.node = .ok l := by
  obtain ⟨requests, ⟨nanos⟩⟩ := l
  have hwindow : (nanos : Int) ≤ Int64.maxValue.toInt := h
  have hmax : Int64.maxValue.toInt < 2 ^ 63 := by decide
  have hsize : (2 : Int) ^ 63 ≤ UInt64.size - 1 := by decide
  have hnanos : (Int64.ofInt nanos).toInt = nanos := Int64.toInt_ofInt_of_le (by omega) (by omega)
  have hwritten : (min nanos (UInt64.size - 1) : Int) = (Int64.ofInt nanos).toInt := by omega
  refine record_of_fills (by decide) ?_
  rw [hwritten]
  refine .optional (Decoder.int64_node requests) (.optional (Decoder.int64_node _) ?_)
  rw [hnanos]
  exact .done _

end RateLimit

namespace TimeWindow

variable [ZoneDatabase]

theorem stored_of_decoder {n : Node} {w : TimeWindow} (h : decoder n = .ok w) : w.Stored := by
  obtain ⟨p, -, h⟩ := exists_of_bind_ok h
  exact stored_of_ofParts (ok_of_mapError_ok h)

theorem decoder_toJson {w : TimeWindow} (h : w.Stored) : decoder w.toJson.node = .ok w := by
  have hdays : Decoder.list Decoder.byte (Json.array (w.parts.days.map fun (n : Nat) => .int n)).node =
      .ok w.parts.days := by
    refine Decoder.list_node fun n hn => Decoder.byte_node ?_
    obtain ⟨d, -, rfl⟩ := List.mem_map.1 hn
    cases d <;> decide
  have hparts : record ⟨"", "", "", []⟩ partFields w.toJson.node = .ok w.parts := by
    refine record_of_fills (by decide) ?_
    exact .needed rfl (.needed rfl (.optional rfl (.optional hdays (.done _))))
  rw [decoder, hparts]
  simp [bind, Except.bind, ofParts_parts h, Except.mapError]

end TimeWindow

namespace Effect

variable [ZoneDatabase]

structure Stored (e : Effect) : Prop where
  quota : ∀ q ∈ e.quota, q.Stored
  rateLimit : ∀ l ∈ e.rateLimit, l.Stored
  window : ∀ w ∈ e.window, w.Stored
  metadata : ∀ es ∈ e.metadata, Value.Stored es

def Same (e f : Effect) : Prop := ∃ m, Option.Rel Value.Alike m f.metadata ∧ e = { f with metadata := m }

def numbers (e : Effect) : List Binary64 := Value.entryNumbers (e.metadata.getD .empty).toList

theorem stored_blank : blank.Stored := ⟨nofun, nofun, nofun, nofun⟩

theorem stored_permissive : permissive.Stored := ⟨nofun, nofun, nofun, nofun⟩

theorem stored_of_decoder {n : Node} {e : Effect} (h : decoder n = .ok e) : e.Stored := by
  refine record_keeps (P := Stored) ?_ h stored_blank
  simp only [fields, List.forall_mem_cons, List.not_mem_nil, false_implies, implies_true, and_true]
  and_intros
  all_goals try exact Field.keeps_of_read rfl fun _ _ _ _ h => ⟨h.quota, h.rateLimit, h.window, h.metadata⟩
  · refine Field.keeps_of_read rfl fun _ q hq _ h => ⟨?_, h.rateLimit, h.window, h.metadata⟩
    exact Decoder.forall_mem_of_option hq fun _ => Quota.stored_of_decoder
  · refine Field.keeps_of_read rfl fun _ l hl _ h => ⟨h.quota, ?_, h.window, h.metadata⟩
    exact Decoder.forall_mem_of_option hl fun _ => RateLimit.stored_of_decoder
  · refine Field.keeps_of_read rfl fun _ w hw _ h => ⟨h.quota, h.rateLimit, ?_, h.metadata⟩
    exact Decoder.forall_mem_of_option hw fun _ => TimeWindow.stored_of_decoder
  · refine Field.keeps_of_read rfl fun _ es hes _ h => ⟨h.quota, h.rateLimit, h.window, ?_⟩
    exact Decoder.forall_mem_of_option hes fun _ => Value.stored_of_entries

omit [ZoneDatabase] in
theorem exists_metadata {x : Option (Entries Value)} (h : ∀ es ∈ x, Value.Stored es)
    (hd : Durable (Value.entryNumbers (x.getD .empty).toList)) :
    ∃ y, Option.Rel (fun fs (es : Entries Value) => Value.entries (Value.depthLimit - 1)
      (Json.object (Value.entriesToJson es.toList)).node = .ok fs) y x ∧ Option.Rel Value.Alike y x := by
  cases x with
  | none => exact ⟨none, .none, .none⟩
  | some es =>
    obtain ⟨fs, hfs, halike⟩ := Value.exists_alike (h es rfl) hd (.refl _)
    exact ⟨some fs, .some hfs, .some halike⟩

theorem nodup_names : (fields.map (·.name)).Nodup := by
  show ["allow", "reason", "quota", "rate_limit", "time_window", "metadata"].Nodup
  decide

theorem exists_decoder_toJson {e : Effect} (h : e.Stored) (hd : Durable e.numbers) :
    ∃ f, decoder e.toJson.node = .ok f ∧ f.Same e := by
  obtain ⟨allow, reason, quota, rateLimit, window, metadata⟩ := e
  have hquota := rel_of_rereads fun q hq => Quota.decoder_toJson (h.quota q hq)
  have hrate := rel_of_rereads fun l hl => RateLimit.decoder_toJson (h.rateLimit l hl)
  have hwindow := rel_of_rereads fun w hw => TimeWindow.decoder_toJson (h.window w hw)
  obtain ⟨m, hm, hsame⟩ := exists_metadata h.metadata hd
  refine ⟨⟨allow, reason, quota, rateLimit, window, m⟩, record_of_fills nodup_names ?_, m, hsame, rfl⟩
  simp only [memberNodes_append, List.append_assoc]
  rw [← List.append_nil (memberNodes (member "metadata" _ _))]
  refine .optional rfl (.optional rfl ?_)
  refine .member_of_option hquota (fun _ => node_object_ne_null _) rfl ?_
  refine .member_of_option hrate (fun _ => node_object_ne_null _) rfl ?_
  refine .member_of_option hwindow (fun _ => node_object_ne_null _) rfl ?_
  exact .member_of_option hm (fun _ => node_object_ne_null _) rfl (.done _)

theorem stored_of_decode {s : String} {e : Effect} (h : decode s = .ok e) : e.Stored := by
  rcases exists_of_decodeBlob h with rfl | rfl | ⟨n, hn⟩
  · exact stored_permissive
  · exact stored_blank
  · exact stored_of_decoder hn

theorem readsAs_same {e : Effect} (h : e.Stored) (hd : Durable e.numbers) : ReadsAs decode e.toJson (·.Same e) := by
  obtain ⟨f, hread, hsame⟩ := exists_decoder_toJson h hd
  exact fun t ht =>
    ⟨f, decodeBlob_of_writes ht (isBlankText_of_writes_object ht) (node_object_ne_null _) hread, hsame⟩

end Effect

end AccessPolicy
