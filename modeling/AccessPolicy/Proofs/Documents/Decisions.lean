import AccessPolicy.Policy.Decide
import AccessPolicy.Policy.Record
import AccessPolicy.Proofs.Documents.Effects

namespace AccessPolicy

open Json

namespace Entries

variable {α : Type}

theorem mem_setAll {e : String × α} {l : List (String × α)} {es : Entries α} (h : e ∈ (es.setAll l).toList) :
    e ∈ l ∨ e ∈ es.toList := by
  induction l generalizing es with
  | nil => exact .inr h
  | cons f l ih =>
    have hset : e ∈ ((es.set f.1 f.2).setAll l).toList := h
    rcases ih hset with h | h
    · exact .inl (List.mem_cons_of_mem _ h)
    · rcases mem_place h with rfl | h
      · exact .inl List.mem_cons_self
      · exact .inr h

theorem mem_merge {e : String × α} {l m : List (String × α)} (h : e ∈ (merge l m).toList) : e ∈ l ∨ e ∈ m := by
  rcases mem_setAll h with h | h
  · exact List.mem_append.1 h
  · contradiction

end Entries

variable [ZoneDatabase]

namespace Decision

structure Stored (d : Decision) : Prop where
  metadata : Value.Stored d.metadata
  quota : ∀ q ∈ d.quota, q.Stored
  rateLimit : ∀ l ∈ d.rateLimit, l.Stored
  window : ∀ w ∈ d.window, w.Stored

def Same (c d : Decision) : Prop := ∃ es, Value.Alike es d.metadata ∧ c = { d with metadata := es }

def numbers (d : Decision) : List Binary64 := Value.entryNumbers d.metadata.toList

theorem stored_stating (allow : Bool) (reason : String) : (stating allow reason).Stored :=
  ⟨Value.stored_empty, nofun, nofun, nofun⟩

section Documents

theorem stored_of_decoder {n : Node} {d : Decision} (h : decoder n = .ok d) : d.Stored := by
  refine record_keeps (P := Stored) ?_ h (stored_stating false "")
  simp only [fields, List.forall_mem_cons, List.not_mem_nil, false_implies, implies_true, and_true]
  and_intros
  all_goals try exact Field.keeps_of_read rfl fun _ _ _ _ h => ⟨h.metadata, h.quota, h.rateLimit, h.window⟩
  · exact Field.keeps_of_read rfl fun _ _ hes _ h => ⟨Value.stored_of_entries hes, h.quota, h.rateLimit, h.window⟩
  · refine Field.keeps_of_read rfl fun _ q hq _ h => ⟨h.metadata, ?_, h.rateLimit, h.window⟩
    exact Decoder.forall_mem_of_option hq fun _ => Quota.stored_of_decoder
  · refine Field.keeps_of_read rfl fun _ l hl _ h => ⟨h.metadata, h.quota, ?_, h.window⟩
    exact Decoder.forall_mem_of_option hl fun _ => RateLimit.stored_of_decoder
  · refine Field.keeps_of_read rfl fun _ w hw _ h => ⟨h.metadata, h.quota, h.rateLimit, ?_⟩
    exact Decoder.forall_mem_of_option hw fun _ => TimeWindow.stored_of_decoder

theorem stored_of_decode {s : String} {d : Decision} (h : decode s = .ok d) : d.Stored := by
  obtain ⟨n, hn⟩ := exists_of_decode h
  exact stored_of_decoder hn

theorem nodup_names : (fields.map (·.name)).Nodup := by
  show ["allow", "reason", "triggered_conditions", "metadata", "quota", "rate_limit", "time_window"].Nodup
  decide

theorem exists_decoder_toJson {d : Decision} (h : d.Stored) (hd : Durable d.numbers) :
    ∃ c, decoder d.toJson.node = .ok c ∧ c.Same d := by
  obtain ⟨es, hes, halike⟩ := Value.exists_alike h.metadata hd (.refl _)
  refine ⟨{ d with metadata := es }, record_of_fills nodup_names ?_, es, halike, rfl⟩
  have htriggered : Decoder.list Decoder.text (Json.array (d.triggered.map .text)).node = .ok d.triggered :=
    Decoder.list_node fun _ _ => rfl
  have hquota := rel_of_rereads fun q hq => Quota.decoder_toJson (h.quota q hq)
  have hrate := rel_of_rereads fun l hl => RateLimit.decoder_toJson (h.rateLimit l hl)
  have hwindow := rel_of_rereads fun w hw => TimeWindow.decoder_toJson (h.window w hw)
  simp only [node, memberNodes_append, memberNodes, List.cons_append, List.nil_append, List.append_assoc]
  rw [← List.append_nil (memberNodes (Effect.member "time_window" _ _))]
  refine .needed rfl (.needed rfl ?_)
  refine .written_or_omitted (c := d.triggered) ?_ (.written_or_omitted (c := es) ?_ ?_)
  · cases ht : d.triggered.isEmpty with
    | true =>
      rw [List.isEmpty_iff.1 ht]
      exact .inr ⟨rfl, rfl⟩
    | false => exact .inl ⟨_, rfl, htriggered⟩
  · cases hm : d.metadata.toList.isEmpty with
    | true =>
      rw [Value.eq_empty_of_alike halike (List.isEmpty_iff.1 hm)]
      exact .inr ⟨rfl, rfl⟩
    | false => exact .inl ⟨_, rfl, hes⟩
  refine .member_of_option hquota (fun _ => node_object_ne_null _) rfl ?_
  refine .member_of_option hrate (fun _ => node_object_ne_null _) rfl ?_
  exact .member_of_option hwindow (fun _ => node_object_ne_null _) rfl (.done _)

end Documents

section Deciding

variable {d : Decision} {e : Effect} {mode : PatternMode} {r : Request} {ps : List Policy}

omit [ZoneDatabase] in
theorem forall_mem_orElse {α : Type} {P : α → Prop} {x y : Option α} (hx : ∀ a ∈ x, P a) (hy : ∀ a ∈ y, P a) :
    ∀ a ∈ (x <|> y), P a := by
  cases x with
  | none => exact hy
  | some a => exact hx

theorem Stored.apply (hd : d.Stored) (he : e.Stored) (t : Instant) : (d.apply e t).Stored := by
  unfold Decision.apply
  split
  · exact ⟨hd.metadata, hd.quota, hd.rateLimit, hd.window⟩
  · refine ⟨fun x hx => ?_, ?_, ?_, ?_⟩
    · rcases Entries.mem_merge hx with hx | hx
      · exact hd.metadata x hx
      · cases hm : e.metadata with
        | none => simp [hm, Entries.empty] at hx
        | some es => exact he.metadata es hm x (by simpa [hm] using hx)
    · exact forall_mem_orElse he.quota hd.quota
    · exact forall_mem_orElse he.rateLimit hd.rateLimit
    · exact forall_mem_orElse he.window hd.window

theorem stored_decideFrom (hps : ∀ p ∈ ps, p.effect.Stored) (hd : d.Stored) :
    (Policy.decideFrom mode r d ps).Stored := by
  induction ps generalizing d with
  | nil => exact hd
  | cons p ps ih =>
    obtain ⟨hp, hps⟩ := List.forall_mem_cons.1 hps
    rw [Policy.decideFrom]
    split
    · exact ih hps hd
    · cases p.kind with
      | deny => exact stored_stating false _
      | allow => exact ih hps ⟨hd.metadata, hd.quota, hd.rateLimit, hd.window⟩
      | conditional =>
        have happly := hd.apply hp r.time.instant
        exact ih hps ⟨happly.metadata, happly.quota, happly.rateLimit, happly.window⟩

end Deciding

end Decision

namespace PolicyRecord

variable {r : PolicyRecord} {p : Policy}

theorem stored_of_readEffect {kind : PolicyKind} {s : String} {e : Effect} (h : readEffect kind s = .ok e) :
    e.Stored := by
  unfold readEffect at h
  split at h
  case h_1 he =>
    obtain rfl := Except.ok.inj h
    exact Effect.stored_of_decode he
  case h_2 => contradiction
  case h_3 =>
    obtain rfl := Except.ok.inj h
    exact Effect.stored_blank

theorem stored_effect_of_compile (h : r.compile = .ok p) : p.effect.Stored := by
  have hpolicy := compile_eq_ok.1 h
  unfold toPolicy at hpolicy
  split at hpolicy
  · contradiction
  · split at hpolicy
    · contradiction
    · obtain ⟨e, he, rfl⟩ := exists_of_map_ok hpolicy
      exact stored_of_readEffect he

end PolicyRecord

end AccessPolicy
