import Mathlib
import AccessPolicy.Proofs.Documents.Scalars
import AccessPolicy.Proofs.Value.Rereading
import AccessPolicy.Proofs.Value.Sameness

namespace AccessPolicy

open Json

namespace Binary64

theorem documentText_eq_of_same {x y : Binary64} (h : x.same y = true) : x.documentText = y.documentText := by
  rcases eq_or_zeros_of_same h with rfl | ⟨a, b, rfl, rfl⟩
  · rfl
  · cases a <;> cases b <;> rfl

def ReadsBack (x : Binary64) : Prop := Value.decode (Json.number x).compact = .ok (.number x)

theorem readsBack_of_numeral? {x : Binary64} {n : Numeral} (hx : x.numeral? = some n)
    (hn : n.number? = some (.real x)) : x.ReadsBack := by
  rw [ReadsBack, Value.decode, decode_compact, node, hx, Option.elim_some, Value.ofNode, hn]
  rfl

theorem survives_of_readsBack {x : Binary64} (hx : x.isFinite = true) (h : x.ReadsBack) : x.Survives := by
  cases x with
  | nan => contradiction
  | signed negative m => exact ⟨_, h, by cases negative <;> exact same_of_place_eq rfl rfl⟩

theorem durable_of_readsBack {xs : List Binary64} (h : ∀ x ∈ xs, x.integer? = none → x.ReadsBack) : Durable xs := by
  intro x hx hfinite
  cases hi : x.integer? with
  | some i => exact survives_of_integer? hi
  | none => exact survives_of_readsBack hfinite (h x hx hi)

theorem readsBack_of_survives {x : Binary64} (hx : x.integer? = none) (h : x.Survives) : x.ReadsBack := by
  obtain ⟨y, hy, hsame⟩ := h
  rcases eq_or_zeros_of_same hsame with rfl | ⟨a, b, rfl, rfl⟩
  · exact hy
  · cases b <;> exact absurd hx (by decide)

end Binary64

theorem Entries.setAll_of_ordered {α : Type} {l : List (String × α)} (h : l.Pairwise fun e f => e.1 < f.1) :
    (empty.setAll l).toList = l := by
  have hnodup : (l.map Prod.fst).Nodup := by
    rw [List.Nodup, List.pairwise_map]
    exact h.imp fun hef => Std.ne_of_lt hef
  refine (perm_setAll hnodup).eq_of_pairwise ?_ (empty.setAll l).ordered h
  intro e f _ _ hef hfe
  exact absurd hef (String.lt_asymm hfe)

namespace Value

section Writing

variable {sp : Spacing}

mutual

theorem spaced_eq_of_same : ∀ {v w : Value} (level : Nat), v.same w = true →
    spaced sp level v.toJson = spaced sp level w.toJson
  | .null, .null, _, _ => rfl
  | .bool a, .bool b, _, h => by
    rw [eq_of_beq (a := a) (b := b) h]
  | .number x, .number y, level, h => by
    rw [toJson, toJson, spaced_number, spaced_number, Binary64.documentText_eq_of_same h]
  | .text s, .text t, _, h => by
    rw [eq_of_beq (a := s) (b := t) h]
  | .list [], .list [], _, _ => rfl
  | .list (v :: vs), .list (w :: ws), level, h => by
    obtain ⟨hv, hvs⟩ := Bool.and_eq_true_iff.1 h
    rw [toJson, toJson, itemsToJson, itemsToJson, spaced, spaced, spaced_eq_of_same (level + 1) hv,
      spacedItems_eq_of_same level hvs]
  | .map [], .map [], _, _ => rfl
  | .map ((k, v) :: es), .map ((l, w) :: fs), level, h => by
    obtain ⟨hkv, hes⟩ := Bool.and_eq_true_iff.1 h
    obtain ⟨hk, hv⟩ := Bool.and_eq_true_iff.1 hkv
    rw [toJson, toJson, entriesToJson, entriesToJson, spaced, spaced, eq_of_beq hk, spaced_eq_of_same (level + 1) hv,
      spacedMembers_eq_of_same level hes]

theorem spacedItems_eq_of_same : ∀ {vs ws : List Value} (level : Nat), sameItems vs ws = true →
    spacedItems sp level (itemsToJson vs) = spacedItems sp level (itemsToJson ws)
  | [], [], _, _ => rfl
  | v :: vs, w :: ws, level, h => by
    obtain ⟨hv, hvs⟩ := Bool.and_eq_true_iff.1 h
    rw [itemsToJson, itemsToJson, spacedItems, spacedItems, spaced_eq_of_same (level + 1) hv,
      spacedItems_eq_of_same level hvs]

theorem spacedMembers_eq_of_same : ∀ {es fs : List (String × Value)} (level : Nat), sameEntries es fs = true →
    spacedMembers sp level (entriesToJson es) = spacedMembers sp level (entriesToJson fs)
  | [], [], _, _ => rfl
  | (k, v) :: es, (l, w) :: fs, level, h => by
    obtain ⟨hkv, hes⟩ := Bool.and_eq_true_iff.1 h
    obtain ⟨hk, hv⟩ := Bool.and_eq_true_iff.1 hkv
    rw [entriesToJson, entriesToJson, spacedMembers, spacedMembers, eq_of_beq hk, spaced_eq_of_same (level + 1) hv,
      spacedMembers_eq_of_same level hes]

end

variable {v w : Value}

theorem compact_eq_of_same (h : v.same w = true) : v.toJson.compact = w.toJson.compact := by
  rw [compact, compact, chars_eq_spaced 0, chars_eq_spaced 0, spaced_eq_of_same 0 h]

theorem pretty_eq_of_same (h : v.same w = true) : v.toJson.pretty = w.toJson.pretty := by
  rw [pretty, pretty, indented_eq_spaced 0, indented_eq_spaced 0, spaced_eq_of_same 0 h]

end Writing

section Rereading

variable {room : Nat} {vs : List Value} {es : List (String × Value)}

theorem ofNode_number (x : Binary64) (room : Nat) :
    ofNode room (Json.number x).node = decode (Json.number x).compact := by
  rw [decode, decode_compact, node]
  cases x.numeral? <;> rfl

theorem survives_of_rereads {x : Binary64} (h : (number x).Rereads room) : x.Survives := by
  obtain ⟨w, hw, hsame⟩ := h
  rw [toJson, ofNode_number] at hw
  cases w with
  | number y => exact ⟨y, hw, hsame⟩
  | _ => contradiction

theorem rereads_of_ofItems_same {ws : List Value} (h : ofItems room (itemNodes (itemsToJson vs)) = .ok ws)
    (hsame : List.Forall₂ (fun w v => w.same v = true) ws vs) : ∀ v ∈ vs, v.Rereads room := by
  induction vs generalizing ws with
  | nil => nofun
  | cons v vs ih =>
    rw [itemsToJson, itemNodes, ofItems] at h
    cases hw : ofNode room v.toJson.node with
    | error e => simp [hw] at h
    | ok w =>
      rw [hw] at h
      obtain ⟨us, hus, rfl⟩ := exists_of_map_ok h
      obtain ⟨hwv, hall⟩ := List.forall₂_cons.1 hsame
      exact List.forall_mem_cons.2 ⟨⟨w, hw, hwv⟩, ih hus hall⟩

theorem rereads_of_list (h : (list vs).Rereads room) : ∀ v ∈ vs, v.Rereads (room - 1) := by
  obtain ⟨w, hw, hsame⟩ := h
  obtain ⟨-, ws, hws, rfl⟩ := exists_ofItems hw
  exact rereads_of_ofItems_same hws (sameItems_iff.1 hsame)

theorem exists_of_ofMembers {fs gs : Entries Value} (h : ofMembers room fs (memberNodes (entriesToJson es)) = .ok gs) :
    ∃ l, gs = fs.setAll l ∧ l.map Prod.fst = es.map Prod.fst ∧
      List.Forall₂ (fun e f => ofNode room f.2.toJson.node = .ok e.2) l es := by
  induction es generalizing fs with
  | nil => exact ⟨[], (Except.ok.inj h).symm, rfl, .nil⟩
  | cons e es ih =>
    obtain ⟨k, v⟩ := e
    rw [entriesToJson, memberNodes, ofMembers] at h
    cases hw : ofNode room v.toJson.node with
    | error e => simp [hw] at h
    | ok w =>
      rw [hw] at h
      obtain ⟨l, rfl, hnames, hall⟩ := ih h
      exact ⟨(k, w) :: l, rfl, congrArg (k :: ·) hnames, .cons hw hall⟩

theorem rereads_of_members {l : List (String × Value)}
    (hread : List.Forall₂ (fun e f => ofNode room f.2.toJson.node = .ok e.2) l es)
    (hsame : List.Forall₂ SameEntry l es) : ∀ e ∈ es, e.2.Rereads room := by
  induction hread with
  | nil => nofun
  | cons he _ ih =>
    obtain ⟨hef, hall⟩ := List.forall₂_cons.1 hsame
    exact List.forall_mem_cons.2 ⟨⟨_, he, hef.2⟩, ih hall⟩

theorem rereads_of_map (h : (map es).Rereads room) : ∀ e ∈ es, e.2.Rereads (room - 1) := by
  obtain ⟨w, hw, hsame⟩ := h
  obtain ⟨-, fs, hfs, rfl⟩ := exists_ofMembers_of_ofNode hw
  obtain ⟨l, rfl, hnames, hread⟩ := exists_of_ofMembers hfs
  have hall := sameEntries_iff.1 hsame
  have hordered : l.Pairwise fun e f => e.1 < f.1 := by
    rw [← List.pairwise_map (f := Prod.fst) (R := (· < ·)), hnames, ← Entries.names_of_sameEntry hall,
      List.pairwise_map]
    exact (Entries.empty.setAll l).ordered
  rw [Entries.setAll_of_ordered hordered] at hall
  exact rereads_of_members hread hall

mutual

theorem survives_of_mem_numbers : ∀ {v : Value} {room : Nat}, v.Rereads room → ∀ x ∈ v.numbers, x.Survives
  | .number y, _, h, x, hx => by
    rw [List.mem_singleton.1 hx]
    exact survives_of_rereads h
  | .list _, _, h, x, hx => survives_of_mem_itemNumbers (rereads_of_list h) x hx
  | .map _, _, h, x, hx => survives_of_mem_entryNumbers (rereads_of_map h) x hx

theorem survives_of_mem_itemNumbers : ∀ {vs : List Value} {room : Nat}, (∀ v ∈ vs, v.Rereads room) →
    ∀ x ∈ itemNumbers vs, x.Survives
  | v :: vs, _, h, x, hx => by
    obtain ⟨hv, hvs⟩ := List.forall_mem_cons.1 h
    rcases List.mem_append.1 hx with hx | hx
    · exact survives_of_mem_numbers hv x hx
    · exact survives_of_mem_itemNumbers hvs x hx

theorem survives_of_mem_entryNumbers : ∀ {es : List (String × Value)} {room : Nat}, (∀ e ∈ es, e.2.Rereads room) →
    ∀ x ∈ entryNumbers es, x.Survives
  | (_, v) :: es, _, h, x, hx => by
    obtain ⟨hv, hes⟩ := List.forall_mem_cons.1 h
    rcases List.mem_append.1 hx with hx | hx
    · exact survives_of_mem_numbers hv x hx
    · exact survives_of_mem_entryNumbers hes x hx

end

end Rereading

/-- What is read from a document can be written and read again without loss, and from then on its text stays as it is,
exactly if its numbers that are not written as integers are read back. -/
theorem stable_iff_numbers_read_back {s : String} {v : Value} (h : decode s = .ok v) :
    (ReadsAs decode v.toJson fun w =>
      w.same v = true ∧ w.toJson.compact = v.toJson.compact ∧ w.toJson.pretty = v.toJson.pretty) ↔
      ∀ x ∈ v.numbers, x.integer? = none → x.ReadsBack := by
  obtain ⟨n, hn⟩ := exists_of_decode h
  constructor
  · intro hstable x hx hi
    obtain ⟨w, hw, hsame, -⟩ := hstable _ (.inl rfl)
    rw [decode, decode_compact] at hw
    exact Binary64.readsBack_of_survives hi (survives_of_mem_numbers ⟨w, hw, hsame⟩ x hx)
  · intro hnumbers
    obtain ⟨w, hw, hsame⟩ := rereads_of_ofNode hn (Binary64.durable_of_readsBack hnumbers)
    exact readsAs_of_decoder ⟨w, hw, hsame, compact_eq_of_same hsame, pretty_eq_of_same hsame⟩

theorem stable_around_two_pow_53 :
    let text := "\x7b\"b\":true,\"a\":[-0.0,9007199254740993,0.25],\"b\":null\x7d"
    let large : Binary64 := .ofInt 9007199254740993
    let quarter : Binary64 := .signed false ((Magnitude.ofNat 1).div (.ofNat 4))
    let v : Value := .map [("a", .list [.number (.signed true .zero), .number large, .number quarter]), ("b", .null)]
    decode text = .ok v ∧ v.toJson.compact = "\x7b\"a\":[0,9007199254740992.0,0.25],\"b\":null\x7d" ∧
      (∀ x ∈ v.numbers, x.integer? = none → x.ReadsBack) ∧
      ∃ w, decode v.toJson.compact = .ok w ∧ w.same v = true ∧ w.toJson.compact = v.toJson.compact := by
  intro text large quarter v
  have hread : Json.read text = ⟨.object [(some "b", .bool true),
      (some "a", .array [.number ⟨true, ['0'], ['0'], none⟩, .number ⟨false, "9007199254740993".toList, [], none⟩,
        .number ⟨false, ['0'], ['2', '5'], none⟩] none), (some "b", .null)] none, none⟩ := by cbv
  have hzero : Numeral.number? ⟨true, ['0'], ['0'], none⟩ = some (.real (.signed true .zero)) := by decide +kernel
  have hlarge : Numeral.number? ⟨false, "9007199254740993".toList, [], none⟩ = some (.int 9007199254740993) := by
    decide +kernel
  have hquarter : Numeral.number? ⟨false, ['0'], ['2', '5'], none⟩ = some (.real quarter) := by decide +kernel
  have hdecode : decode text = .ok v := by
    rw [decode, Json.decode, hread]
    simp only [ofNode, ofMembers, ofItems, hzero, hlarge, hquarter]
    rfl
  have hzeroText : (Binary64.signed true .zero).documentText = ['0'] := by decide +kernel
  have hlargeText : large.documentText = "9007199254740992.0".toList := by decide +kernel
  have hquarterText : quarter.documentText = "0.25".toList := by decide +kernel
  have htext : v.toJson.compact = "\x7b\"a\":[0,9007199254740992.0,0.25],\"b\":null\x7d" := by
    simp only [v, compact, toJson, entriesToJson, itemsToJson, Json.chars, Json.itemChars, memberChars, scalarText,
      hzeroText, hlargeText, hquarterText]
    rfl
  have hlargeBack : large.ReadsBack := by
    have hnumeral : large.numeral? = some ⟨false, "9007199254740992".toList, ['0'], none⟩ := by decide +kernel
    exact Binary64.readsBack_of_numeral? hnumeral (by decide +kernel)
  have hquarterBack : quarter.ReadsBack :=
    Binary64.readsBack_of_numeral? (n := ⟨false, ['0'], ['2', '5'], none⟩) (by decide +kernel) hquarter
  have hnumbers : ∀ x ∈ v.numbers, x.integer? = none → x.ReadsBack := by
    have hlist : v.numbers = [.signed true .zero, large, quarter] := rfl
    simp only [hlist, List.forall_mem_cons, List.not_mem_nil, false_implies, implies_true, and_true]
    exact ⟨fun h => absurd h (by decide +kernel), fun _ => hlargeBack, fun _ => hquarterBack⟩
  obtain ⟨w, hw, hsame, hcompact, -⟩ := (stable_iff_numbers_read_back hdecode).2 hnumbers _ (.inl rfl)
  exact ⟨hdecode, htext, hnumbers, w, hw, hsame, hcompact⟩

end Value

end AccessPolicy
