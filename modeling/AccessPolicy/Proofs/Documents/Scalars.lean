import AccessPolicy.Json.Decode
import AccessPolicy.Policy.Effect
import AccessPolicy.Proofs.Json.Records
import AccessPolicy.Proofs.Time.Rfc3339

namespace AccessPolicy.Json

theorem itemNodes_eq_map (vs : List Json) : itemNodes vs = vs.map node := by
  induction vs with
  | nil => rfl
  | cons v vs ih => rw [itemNodes, ih, List.map_cons]

theorem memberNodes_append (ms ns : List (String × Json)) :
    memberNodes (ms ++ ns) = memberNodes ms ++ memberNodes ns := by
  induction ms with
  | nil => rfl
  | cons m ms ih =>
    obtain ⟨k, v⟩ := m
    rw [List.cons_append, memberNodes, ih, memberNodes, List.cons_append]

theorem node_int_ne_null (i : Int) : (Json.int i).node ≠ .null := nofun

theorem node_text_ne_null (s : String) : (Json.text s).node ≠ .null := nofun

theorem node_array_ne_null (vs : List Json) : (Json.array vs).node ≠ .null := nofun

theorem node_object_ne_null (ms : List (String × Json)) : (Json.object ms).node ≠ .null := nofun

namespace Decoder

theorem integer_node {low high i : Int} (hlow : low ≤ i) (hhigh : i ≤ high) (hmin : -(1 <<< 63) ≤ i)
    (hmax : i < UInt64.size) : integer low high (Json.int i).node = .ok i := by
  rw [node, integer, Numeral.number?_ofInt hmin hmax]
  simp [hlow, hhigh]

theorem uint64_node (n : UInt64) : uint64 (Json.int n.toNat).node = .ok n := by
  have hn := n.toNat_lt_size
  rw [uint64, integer_node (by omega) (by omega) (by omega) (by omega)]
  simp [Except.map]

theorem int64_node (i : Int64) : int64 (Json.int i.toInt).node = .ok i := by
  have hlow : Int64.minValue.toInt ≤ i.toInt := i.minValue_le_toInt
  have hhigh : i.toInt ≤ Int64.maxValue.toInt := i.toInt_le
  have hmin : -(1 <<< 63 : Nat) ≤ Int64.minValue.toInt := by decide
  have hmax : Int64.maxValue.toInt < (UInt64.size : Int) := by decide
  rw [int64, integer_node hlow hhigh (by omega) (by omega)]
  simp [Except.map]

theorem byte_node {n : Nat} (h : n ≤ 255) : byte (Json.int n).node = .ok n := by
  have hsize : UInt64.size = 18446744073709551616 := rfl
  rw [byte, integer_node (by omega) (by omega) (by omega) (by omega)]
  simp [Except.map]

theorem timestamp_node {t : Timestamp} (h : t.Writable) : timestamp (Json.text t.documentText).node = .ok t := by
  have hread := Timestamp.ofText_documentText h
  simp [node, timestamp, text, hread, Except.mapError, bind, Except.bind]

theorem instant_node {t : Instant} (h : t.Writable) : instant (Json.text t.documentText).node = .ok t := by
  have hread := Instant.ofText_documentText h
  simp [node, instant, text, hread, Except.mapError, bind, Except.bind]

theorem exists_of_timestamp {n : Node} {t : Timestamp} (h : timestamp n = .ok t) : ∃ s, Timestamp.ofText s = .ok t := by
  obtain ⟨s, -, h⟩ := exists_of_bind_ok h
  exact ⟨s, ok_of_mapError_ok h⟩

theorem exists_of_instant {n : Node} {t : Instant} (h : instant n = .ok t) : ∃ s, Instant.ofText s = .ok t := by
  obtain ⟨s, -, h⟩ := exists_of_bind_ok h
  exact ⟨s, ok_of_mapError_ok h⟩

theorem option_of_ok {α : Type} {d : Decoder α} {n : Node} {a : α} (hnull : n ≠ .null) (h : d n = .ok a) :
    option d n = .ok (some a) := by
  cases n with
  | null => exact absurd rfl hnull
  | _ => exact congrArg (·.map some) h

theorem of_option_ok {α : Type} {d : Decoder α} {n : Node} {a : α} (h : option d n = .ok (some a)) : d n = .ok a := by
  cases n with
  | null => exact absurd (Except.ok.inj h) (by simp)
  | _ =>
    obtain ⟨b, hb, hba⟩ := exists_of_map_ok h
    exact Option.some.inj hba ▸ hb

theorem forall_mem_of_option {α : Type} {d : Decoder α} {n : Node} {x : Option α} {P : α → Prop}
    (h : option d n = .ok x) (hd : ∀ a, d n = .ok a → P a) : ∀ a ∈ x, P a := by
  rintro a rfl
  exact hd a (of_option_ok h)

section Lists

variable {α β : Type} {d : Decoder β} {f : α → Json}

theorem mapM_eq_ok_iff {ns : List Node} {bs : List β} :
    ns.mapM d = .ok bs ↔ List.Forall₂ (fun n b => d n = .ok b) ns bs := by
  induction ns generalizing bs with
  | nil => cases bs <;> simp [pure, Except.pure]
  | cons n ns ih =>
    rw [List.mapM_cons]
    cases hn : d n with
    | error e => cases bs <;> simp [bind, Except.bind, hn]
    | ok b =>
      cases hns : ns.mapM d with
      | error e => cases bs <;> simp [bind, Except.bind, ← ih, hns, hn]
      | ok cs => cases bs <;> simp [bind, Except.bind, pure, Except.pure, ← ih, hns, hn]

theorem list_node_iff {as : List α} {bs : List β} : list d (Json.array (as.map f)).node = .ok bs ↔
    List.Forall₂ (fun a b => d (f a).node = .ok b) as bs := by
  rw [← List.forall₂_map_left_iff (f := fun a => (f a).node) (R := fun n b => d n = .ok b), ← mapM_eq_ok_iff, node,
    itemNodes_eq_map, List.map_map]
  cases hbs : (as.map fun a => (f a).node).mapM d <;>
    simp [list, Function.comp_def, hbs, finish, bind, Except.bind, pure, Except.pure]

theorem list_node {d : Decoder α} {as : List α} (h : ∀ a ∈ as, d (f a).node = .ok a) :
    list d (Json.array (as.map f)).node = .ok as :=
  list_node_iff.2 (List.forall₂_same.2 h)

theorem exists_list_node {as : List α} {R : β → α → Prop} (h : ∀ a ∈ as, ∃ b, d (f a).node = .ok b ∧ R b a) :
    ∃ bs, list d (Json.array (as.map f)).node = .ok bs ∧ List.Forall₂ R bs as := by
  simp only [list_node_iff]
  induction as with
  | nil => exact ⟨[], .nil, .nil⟩
  | cons a as ih =>
    obtain ⟨b, hb, hab⟩ := h a List.mem_cons_self
    obtain ⟨bs, hbs, hall⟩ := ih fun c hc => h c (List.mem_cons_of_mem _ hc)
    exact ⟨b :: bs, .cons hb hbs, .cons hab hall⟩

theorem exists_of_mem_list {n : Node} {bs : List β} (h : list d n = .ok bs) {b : β} (hb : b ∈ bs) :
    ∃ m, d m = .ok b := by
  cases n with
  | array items stop =>
    obtain ⟨cs, hcs, h⟩ := exists_of_bind_ok h
    obtain ⟨-, -, h⟩ := exists_of_bind_ok h
    obtain rfl := Except.ok.inj h
    obtain ⟨i, hi, rfl⟩ := List.getElem_of_mem hb
    have hall := mapM_eq_ok_iff.1 hcs
    exact ⟨_, (List.forall₂_iff_get.1 hall).2 i (hall.length_eq ▸ hi) hi⟩
  | _ => contradiction

end Lists

end Decoder

section Texts

variable {α : Type} {d : Decoder α} {s : String} {a ifBlank ifNull : α}

theorem exists_of_decode (h : decode d s = .ok a) : ∃ n, d n = .ok a := by
  obtain ⟨b, hb, h⟩ := exists_of_bind_ok h
  obtain ⟨-, -, h⟩ := exists_of_bind_ok h
  exact ⟨_, Except.ok.inj h ▸ hb⟩

theorem exists_of_decodeBlob (h : decodeBlob d ifBlank ifNull s = .ok a) :
    a = ifBlank ∨ a = ifNull ∨ ∃ n, d n = .ok a := by
  rw [decodeBlob] at h
  split at h
  · exact .inl (Except.ok.inj h).symm
  · obtain ⟨b, hb, rfl⟩ := exists_of_map_ok h
    cases b with
    | none => exact .inr (.inl rfl)
    | some c =>
      obtain ⟨n, hn⟩ := exists_of_decode hb
      exact .inr (.inr ⟨n, Decoder.of_option_ok hn⟩)

theorem isBlankText_of_writes_array {vs : List Json} (h : (Json.array vs).Writes s) : Text.isBlankText s = false := by
  rcases h with rfl | rfl <;> cases vs <;> simp [Text.isBlankText, compact, pretty, chars, indented, Text.isBlank]

theorem isBlankText_of_writes_object {ms : List (String × Json)} (h : (Json.object ms).Writes s) :
    Text.isBlankText s = false := by
  rcases h with rfl | rfl <;> cases ms <;> simp [Text.isBlankText, compact, pretty, chars, indented, Text.isBlank]

theorem decodeBlob_of_writes {v : Json} (h : v.Writes s) (hblank : Text.isBlankText s = false) (hnull : v.node ≠ .null)
    (hread : d v.node = .ok a) : decodeBlob d ifBlank ifNull s = .ok a := by
  rw [decodeBlob, hblank, decode_of_writes _ h, Decoder.option_of_ok hnull hread]
  rfl

def ReadsAs (decode : String → Except DecodeFault α) (v : Json) (P : α → Prop) : Prop :=
  ∀ t, v.Writes t → ∃ a, decode t = .ok a ∧ P a

theorem readsAs_of_decoder {v : Json} {P : α → Prop} (h : ∃ a, d v.node = .ok a ∧ P a) : ReadsAs (decode d) v P := by
  obtain ⟨a, hread, ha⟩ := h
  exact fun t ht => ⟨a, (decode_of_writes d ht).trans hread, ha⟩

end Texts

end AccessPolicy.Json
