import AccessPolicy.Proofs.Condition.Identity
import AccessPolicy.Proofs.Documents.Conditions
import AccessPolicy.Proofs.Documents.Decisions
import AccessPolicy.Proofs.Documents.Inputs
import AccessPolicy.Time.ZoneTable

namespace AccessPolicy

open Json

/-- What is read from a document, and what is decided by stored policies, is read back from the texts that are written
for it, as long as the doubles in it are. -/
theorem documents_survive [ZoneDatabase] :
    (∀ (s : String) (r : PolicyRecord), PolicyRecord.decode s = .ok r →
      ReadsAs PolicyRecord.decode r.toJson (· = r)) ∧
    (∀ (s : String) (r : Request), Request.decode s = .ok r → Durable r.numbers →
      ∀ l : List (String × Value), l.Perm r.metadata.toList → ReadsAs Request.decode (r.listing l) (·.Same r)) ∧
    (∀ (s : String) (d : Decision), Decision.decode s = .ok d → Durable d.numbers →
      ReadsAs Decision.decode d.toJson (·.Same d)) ∧
    (∀ (s : String) (e : Effect), Effect.decode s = .ok e → Durable e.numbers →
      ReadsAs Effect.decode e.toJson (·.Same e)) ∧
    (∀ (s : String) (cs : List Condition), Condition.decodeAll s = .ok cs → (∀ c ∈ cs, Durable c.value.numbers) →
      ReadsAs Condition.decodeAll (Json.array (cs.map Condition.toJson)) fun ds =>
        List.Forall₂ (fun d c => d.same c = true ∧ d.pattern? = c.pattern?) ds cs ∧
        ∀ (mode : PatternMode) (r : Request), Condition.allHold mode ds r = Condition.allHold mode cs r) ∧
    (∀ (mode : PatternMode) (ps : List Policy) (r : Request),
      (∀ p ∈ ps, ∃ record : PolicyRecord, record.compile = .ok p) → Durable (Policy.decide mode ps r).numbers →
        ReadsAs Decision.decode (Policy.decide mode ps r).toJson (·.Same (Policy.decide mode ps r))) := by
  refine ⟨?_, ?_, ?_, ?_, ?_, ?_⟩
  · intro s r h
    exact readsAs_of_decoder ⟨r, PolicyRecord.decoder_toJson (PolicyRecord.stored_of_decode h), rfl⟩
  · intro s r h hd l hl
    exact readsAs_of_decoder (Request.exists_decoder_listing (Request.stored_of_decode h) hd hl)
  · intro s d h hd
    exact readsAs_of_decoder (Decision.exists_decoder_toJson (Decision.stored_of_decode h) hd)
  · intro s e h hd
    exact Effect.readsAs_same (Effect.stored_of_decode h) hd
  · intro s cs h hd t ht
    obtain ⟨ds, hread, hsame⟩ := Condition.readsAs_same (Condition.stored_of_decodeAll h) hd t ht
    exact ⟨ds, hread, hsame.imp fun _ _ h => ⟨h, Condition.pattern?_eq_of_same h⟩, Condition.allHold_eq_of_same hsame⟩
  · intro mode ps r hps hd
    have heffects : ∀ p ∈ ps, p.effect.Stored := by
      intro p hp
      obtain ⟨record, hrecord⟩ := hps p hp
      exact record.stored_effect_of_compile hrecord
    have hstored : (Policy.decide mode ps r).Stored :=
      Decision.stored_decideFrom heffects (Decision.stored_stating true _)
    exact readsAs_of_decoder (Decision.exists_decoder_toJson hstored hd)

open ZoneTable in
theorem metered_documents_survive :
    let half : Binary64 := .signed false ((Magnitude.ofNat 1).div (.ofNat 2))
    let load : Json := .object [("load", .number half), ("seats", .int 12)]
    let effect : Json := .object [("allow", .bool true), ("quota", .object [("period", .text "weekly")]),
      ("rate_limit", .array [.int 60, .int (-5)]), ("metadata", load)]
    let record : Json := .object [("id", .int 7), ("tenant_id", .int 1), ("name", .text "metered"),
      ("type", .text "conditional"), ("created_at", .text "2024-03-04T02:15:00Z")]
    let request : Json := .object [("user_id", .int 5), ("tenant_id", .int 1), ("resource", .text "bot"),
      ("action", .text "publish"), ("time", .text "2024-03-04T10:15:00+08:00"), ("metadata", load)]
    let decision : Json := .object [("allow", .bool true), ("reason", .text ""), ("metadata", load)]
    let conditions : Json := .array [Condition.document "load" "gt" (.number half)]
    (∃ r, PolicyRecord.decode record.compact = .ok r ∧ ReadsAs PolicyRecord.decode r.toJson (· = r)) ∧
    (∃ r, Request.decode request.compact = .ok r ∧ Durable r.numbers ∧ ReadsAs Request.decode r.toJson (·.Same r)) ∧
    (∃ d, Decision.decode decision.compact = .ok d ∧ Durable d.numbers ∧ ReadsAs Decision.decode d.toJson (·.Same d)) ∧
    (∃ e, Effect.decode effect.compact = .ok e ∧ Durable e.numbers ∧ ReadsAs Effect.decode e.toJson (·.Same e)) ∧
    (∃ cs, Condition.decodeAll conditions.compact = .ok cs ∧ (∀ c ∈ cs, Durable c.value.numbers) ∧
      ∃ ds, Condition.decodeAll (Json.array (cs.map Condition.toJson)).compact = .ok ds ∧
        ∀ mode r, Condition.allHold mode ds r = Condition.allHold mode cs r) ∧
    ∃ p d, { PolicyRecord.blank with kind := "conditional", effect := effect.compact }.compile = .ok p ∧
      Policy.decide .enabled [p] .blank = d ∧ Durable d.numbers ∧ ReadsAs Decision.decode d.toJson (·.Same d) := by
  intro half load effect record request decision conditions
  obtain ⟨hrecords, hrequests, hdecisions, heffects, hconditions, hdecided⟩ := documents_survive
  have hnumeral : half.numeral? = some ⟨false, ['0'], ['5'], none⟩ := by decide +kernel
  have hnumber : Numeral.number? ⟨false, ['0'], ['5'], none⟩ = some (.real half) := by decide +kernel
  have hhalf : half.Survives := Binary64.survives_of_numeral? hnumeral hnumber (by decide +kernel)
  have htwelve : (Binary64.ofInt 12).Survives := Binary64.survives_of_integer? (i := 12) (by decide +kernel)
  have hdurable : Durable [half, .ofInt 12] := by
    simpa [Durable] using ⟨fun _ => hhalf, fun _ => htwelve⟩
  have hvalue : ∀ room, Value.ofNode room (Json.number half).node = .ok (.number half) := by
    intro room
    rw [node, hnumeral, Option.elim_some, Value.ofNode, hnumber]
    rfl
  let es : Entries Value := (Entries.empty.set "load" (.number half)).set "seats" (.number (.ofInt 12))
  have hentries : Value.entries (Value.depthLimit - 1) load.node = .ok es := by
    have hnode : load.node =
        .object [(some "load", (Json.number half).node), (some "seats", .number (.ofInt 12))] none := rfl
    rw [hnode, Value.entries, Value.ofMembers, hvalue]
    rfl
  have hrecord : PolicyRecord.decode record.compact = .ok { PolicyRecord.blank with
      id := 7, tenant := 1, name := "metered", kind := "conditional", createdAt := ⟨1709518500, 0⟩ } := by
    rw [PolicyRecord.decode, decode_compact]
    decide +kernel
  have hrequest : Request.decode request.compact = .ok { Request.blank with
      user := 5, tenant := 1, resource := "bot", action := "publish"
      time := ⟨⟨1709518500, 0⟩, 28800⟩, metadata := es } := by
    have htime : Decoder.timestamp (Json.text "2024-03-04T10:15:00+08:00").node = .ok ⟨⟨1709518500, 0⟩, 28800⟩ := by
      decide +kernel
    rw [Request.decode, decode_compact]
    refine record_of_fills (by decide) (.needed (Decoder.uint64_node 5) (.needed (Decoder.uint64_node 1) ?_))
    refine .omitted rfl (.needed rfl (.needed rfl (.omitted rfl (.needed htime ?_))))
    exact .omitted rfl (.omitted rfl (.optional hentries (.done _)))
  have hdecision : Decision.decode decision.compact = .ok { Decision.stating true "" with metadata := es } := by
    rw [Decision.decode, decode_compact]
    refine record_of_fills (by decide) (.needed rfl (.needed rfl (.omitted rfl (.optional hentries ?_))))
    exact .omitted rfl (.omitted rfl (.omitted rfl (.done _)))
  let metered : Effect := ⟨true, "", some ⟨"", 0, .other "weekly", ""⟩, some ⟨60, ⟨0⟩⟩, none, some es⟩
  have heffect : Effect.decode effect.compact = .ok metered := by
    have hquota : Decoder.option Quota.decoder (Json.object [("period", .text "weekly")]).node =
        .ok (some ⟨"", 0, .other "weekly", ""⟩) := by decide +kernel
    have hrate : Decoder.option RateLimit.decoder (Json.array [.int 60, .int (-5)]).node =
        .ok (some ⟨60, ⟨0⟩⟩) := by decide +kernel
    have hload : Decoder.option (Value.entries (Value.depthLimit - 1)) load.node = .ok (some es) :=
      Decoder.option_of_ok (node_object_ne_null _) hentries
    refine decodeBlob_of_writes (.inl rfl) (isBlankText_of_writes_object (.inl rfl)) (node_object_ne_null _) ?_
    refine record_of_fills (by decide) (.optional rfl (.omitted rfl (.optional hquota (.optional hrate ?_))))
    exact .omitted rfl (.optional hload (.done _))
  have hcondition : Condition.decodeAll conditions.compact = .ok [⟨"load", .greater, .number half, .and⟩] :=
    (Condition.readAs_document "load" "gt" fun room _ => hvalue room).2
  let policy : Policy := ⟨0, 0, "", "", .conditional, 0, [], metered, true, default⟩
  have hcompile : { PolicyRecord.blank with kind := "conditional", effect := effect.compact }.compile = .ok policy := by
    have hkind : PolicyKind.ofName? "conditional" = some .conditional := rfl
    have hnone : Condition.decodeAll "" = .ok [] := rfl
    rw [PolicyRecord.compile_eq_ok]
    simp only [PolicyRecord.toPolicy, PolicyRecord.blank, PolicyRecord.readEffect, hkind, hnone, heffect]
    rfl
  let decided : Decision := ⟨true, "No applicable policies found", [""], es, metered.quota, metered.rateLimit, none⟩
  have hdecide : Policy.decide .enabled [policy] .blank = decided := rfl
  refine ⟨⟨_, hrecord, hrecords _ _ hrecord⟩, ⟨_, hrequest, hdurable, ?_⟩,
    ⟨_, hdecision, hdurable, hdecisions _ _ hdecision hdurable⟩, ⟨_, heffect, hdurable, heffects _ _ heffect hdurable⟩,
    ?_, policy, decided, hcompile, hdecide, hdurable, ?_⟩
  · rw [Request.toJson_eq_listing]
    exact hrequests _ _ hrequest hdurable _ (.refl _)
  · have hdurables : ∀ c ∈ [(⟨"load", .greater, .number half, .and⟩ : Condition)], Durable c.value.numbers := by
      intro c hc x hx _
      rw [List.mem_singleton.1 hc] at hx
      rw [List.mem_singleton.1 hx]
      exact hhalf
    obtain ⟨ds, hread, -, hhold⟩ := hconditions _ _ hcondition hdurables _ (.inl rfl)
    exact ⟨_, hcondition, hdurables, ds, hread, hhold⟩
  · have hcompiled : ∀ p ∈ [policy], ∃ record : PolicyRecord, record.compile = .ok p := by
      intro p hp
      rw [List.mem_singleton.1 hp]
      exact ⟨_, hcompile⟩
    exact hdecided .enabled [policy] .blank hcompiled hdurable

end AccessPolicy
