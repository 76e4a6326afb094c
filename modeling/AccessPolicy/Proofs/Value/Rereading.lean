import AccessPolicy.Proofs.Json.Range
import AccessPolicy.Proofs.Json.Reading
import AccessPolicy.Value.Decode
import Mathlib.Data.List.Perm.Basic

namespace AccessPolicy

open Json

def Binary64.Survives (x : Binary64) : Prop :=
  ∃ y, Value.decode (Json.number x).compact = .ok (.number y) ∧ y.same x = true

def Durable (xs : List Binary64) : Prop := ∀ x ∈ xs, x.isFinite = true → x.Survives

namespace Binary64

theorem survives_of_numeral? {x : Binary64} {n : Numeral} {y : Number} (hx : x.numeral? = some n)
    (hn : n.number? = some y) (hsame : y.toBinary64.same x = true) : x.Survives := by
  refine ⟨y.toBinary64, ?_, hsame⟩
  rw [Value.decode, decode_compact, node, hx, Option.elim_some, Value.ofNode, hn]

theorem same_of_place_eq {x y : Binary64} {p : Int} (hx : x.place = some p) (hy : y.place = some p) :
    x.same y = true := by
  simp [same, compare?, hx, hy]

theorem div_shiftLeft {u e : Nat} (h : u % (1 <<< e) = 0) : (u / 1 <<< e) <<< e = u := by
  rw [Nat.shiftLeft_eq _ e, ← Nat.one_shiftLeft]
  exact Nat.div_mul_cancel (Nat.dvd_of_mod_eq_zero h)

theorem exists_whole {negative : Bool} {m : Magnitude} {i : Int} (h : (signed negative m).integer? = some i) :
    ∃ n, m = .ofNat n ∧ n < 2 ^ 53 ∧ i = if negative then -(n : Int) else n := by
  simp only [integer?, Option.ite_none_right_eq_some, Option.some.injEq] at h
  obtain ⟨⟨hwhole, hsize⟩, hi⟩ := h
  refine ⟨_, ?_, hsize, hi.symm⟩
  have hunits := div_shiftLeft hwhole
  generalize m.units / 1 <<< 1074 = n at hsize hunits
  have hlog : n.log2 ≤ 1023 := by
    rcases Nat.eq_zero_or_pos n with rfl | hpos
    · decide
    · have hlt : n.log2 < 53 := (Nat.log2_lt (Nat.ne_of_gt hpos)).2 hsize
      omega
  refine Magnitude.units_injective ?_
  rw [Magnitude.units_ofNat hlog, nearestWhole_of_lt hsize, hunits]

theorem same_ofInt {x : Binary64} {i : Int} (h : x.integer? = some i) :
    (ofInt i).same x = true ∧ i.natAbs < 2 ^ 53 := by
  cases x with
  | nan => contradiction
  | signed negative m =>
    obtain ⟨n, rfl, hsize, rfl⟩ := exists_whole h
    cases negative with
    | false =>
      have hint : ofInt (if false = true then -(n : Int) else n) = signed false (.ofNat n) := by
        simp [ofInt]
      rw [hint]
      exact ⟨same_of_place_eq rfl rfl, by simpa using hsize⟩
    | true =>
      refine ⟨?_, by simpa using hsize⟩
      rcases Nat.eq_zero_or_pos n with rfl | hpos
      · decide
      · have hint : ofInt (if true = true then -(n : Int) else n) = signed true (.ofNat n) := by
          simp [ofInt, hpos]
        rw [hint]
        exact same_of_place_eq rfl rfl

theorem survives_of_integer? {x : Binary64} {i : Int} (h : x.integer? = some i) : x.Survives := by
  obtain ⟨hsame, hsize⟩ := same_ofInt h
  have hrange : UInt64.size = 2 ^ 64 := rfl
  have hlow : (1 <<< 63 : Int) = 2 ^ 63 := rfl
  exact survives_of_numeral? (numeral?_of_integer? h) (Numeral.number?_ofInt (by omega) (by omega)) hsame

end Binary64

namespace Entries

variable {α : Type}

theorem perm_place {name : String} (a : α) {es : List (String × α)} (h : ∀ e ∈ es, e.1 ≠ name) :
    (place name a es).Perm ((name, a) :: es) := by
  fun_induction place name a es with
  | case1 => exact .refl _
  | case2 => exact .refl _
  | case3 => exact absurd rfl (h _ List.mem_cons_self)
  | case4 k b es _ _ ih =>
    exact ((ih fun e he => h e (List.mem_cons_of_mem _ he)).cons _).trans (.swap ..)

theorem perm_setAll {l : List (String × α)} {es : Entries α} (h : ((es.toList ++ l).map Prod.fst).Nodup) :
    (es.setAll l).toList.Perm (es.toList ++ l) := by
  induction l generalizing es with
  | nil =>
    rw [List.append_nil]
    exact .refl _
  | cons e l ih =>
    have hmiddle : (es.toList ++ e :: l).Perm (e :: es.toList ++ l) := List.perm_middle
    have hnodup := (hmiddle.map Prod.fst).nodup_iff.1 h
    have hfresh : ∀ f ∈ es.toList, f.1 ≠ e.1 := by
      intro f hf hfe
      rw [List.cons_append, List.map_cons, List.nodup_cons] at hnodup
      exact hnodup.1 (hfe ▸ List.mem_map_of_mem (List.mem_append_left l hf))
    have hset : (es.set e.1 e.2).toList.Perm (e :: es.toList) := perm_place e.2 hfresh
    have hlater : ((es.set e.1 e.2).setAll l).toList.Perm ((es.set e.1 e.2).toList ++ l) :=
      ih (((hset.append_right l).map Prod.fst).nodup_iff.2 hnodup)
    exact hlater.trans ((hset.append_right l).trans hmiddle.symm)

theorem nodup_names (es : Entries α) : (es.toList.map Prod.fst).Nodup := by
  rw [List.Nodup, List.pairwise_map]
  exact es.ordered.imp fun h => Std.ne_of_lt h

end Entries

namespace Value

mutual

def numbers : Value → List Binary64
  | .number x => [x]
  | .list vs => itemNumbers vs
  | .map es => entryNumbers es
  | _ => []

def itemNumbers : List Value → List Binary64
  | [] => []
  | v :: vs => numbers v ++ itemNumbers vs

def entryNumbers : List (String × Value) → List Binary64
  | [] => []
  | (_, v) :: es => numbers v ++ entryNumbers es

end

def Rereads (room : Nat) (v : Value) : Prop := ∃ w, ofNode room v.toJson.node = .ok w ∧ w.same v = true

variable {room : Nat} {v w : Value} {vs : List Value}

theorem mem_itemNumbers {x : Binary64} (hv : v ∈ vs) (hx : x ∈ v.numbers) : x ∈ itemNumbers vs := by
  induction vs with
  | nil => contradiction
  | cons w vs ih =>
    rw [itemNumbers, List.mem_append]
    rcases List.mem_cons.1 hv with rfl | hv
    · exact .inl hx
    · exact .inr (ih hv)

theorem mem_entryNumbers {x : Binary64} {e : String × Value} {es : List (String × Value)} (he : e ∈ es)
    (hx : x ∈ e.2.numbers) : x ∈ entryNumbers es := by
  induction es with
  | nil => contradiction
  | cons f es ih =>
    rw [entryNumbers, List.mem_append]
    rcases List.mem_cons.1 he with rfl | he
    · exact .inl hx
    · exact .inr (ih he)

theorem sameItems_iff {ws : List Value} : sameItems vs ws = true ↔ List.Forall₂ (fun v w => v.same w = true) vs ws := by
  induction vs generalizing ws with
  | nil => cases ws <;> simp [sameItems]
  | cons v vs ih => cases ws <;> simp [sameItems, ih]

def SameEntry (e f : String × Value) : Prop := e.1 = f.1 ∧ e.2.same f.2 = true

theorem sameEntries_iff {es fs : List (String × Value)} : sameEntries es fs = true ↔ List.Forall₂ SameEntry es fs := by
  induction es generalizing fs with
  | nil => cases fs <;> simp [sameEntries]
  | cons e es ih => cases fs <;> simp [sameEntries, SameEntry, ih]

theorem rereads_number {x : Binary64} (h : x.Survives) (room : Nat) : (number x).Rereads room := by
  obtain ⟨y, hy, hsame⟩ := h
  rw [decode, decode_compact] at hy
  refine ⟨.number y, ?_, hsame⟩
  rw [toJson, node]
  rw [node] at hy
  cases hx : x.numeral? with
  | none =>
    rw [hx] at hy
    injection hy
    contradiction
  | some n =>
    rw [hx] at hy
    exact hy

theorem ofItems_of_rereads (h : ∀ v ∈ vs, v.Rereads room) :
    ∃ ws, ofItems room (itemNodes (itemsToJson vs)) = .ok ws ∧ List.Forall₂ (fun w v => w.same v = true) ws vs := by
  induction vs with
  | nil => exact ⟨[], rfl, .nil⟩
  | cons v vs ih =>
    obtain ⟨w, hw, hsame⟩ := h v List.mem_cons_self
    obtain ⟨ws, hws, hall⟩ := ih fun u hu => h u (List.mem_cons_of_mem _ hu)
    exact ⟨w :: ws, by rw [itemsToJson, itemNodes, ofItems, hw, hws]; rfl, .cons hsame hall⟩

theorem ofMembers_of_rereads {l : List (String × Value)} (h : ∀ e ∈ l, e.2.Rereads room) (es : Entries Value) :
    ∃ ws, ofMembers room es (memberNodes (entriesToJson l)) = .ok (es.setAll ws) ∧ List.Forall₂ SameEntry ws l := by
  induction l generalizing es with
  | nil => exact ⟨[], rfl, .nil⟩
  | cons e l ih =>
    obtain ⟨k, v⟩ := e
    obtain ⟨w, hw, hsame⟩ := h (k, v) List.mem_cons_self
    obtain ⟨ws, hws, hall⟩ := ih (fun f hf => h f (List.mem_cons_of_mem _ hf)) (es.set k w)
    refine ⟨(k, w) :: ws, ?_, .cons ⟨rfl, hsame⟩ hall⟩
    rw [entriesToJson, memberNodes, ofMembers, hw]
    exact hws

end Value

namespace Entries

open Value (SameEntry)

theorem names_of_sameEntry {es fs : List (String × Value)} (h : List.Forall₂ SameEntry es fs) :
    es.map Prod.fst = fs.map Prod.fst := by
  induction h with
  | nil => rfl
  | cons he _ ih => rw [List.map_cons, List.map_cons, he.1, ih]

theorem sameEntry_setAll {es : Entries Value} {l ws : List (String × Value)} (hl : l.Perm es.toList)
    (hws : List.Forall₂ SameEntry ws l) : List.Forall₂ SameEntry (empty.setAll ws).toList es.toList := by
  have hnodup : (ws.map Prod.fst).Nodup := by
    rw [names_of_sameEntry hws]
    exact (hl.map Prod.fst).nodup_iff.2 es.nodup_names
  have hset : (empty.setAll ws).toList.Perm ws := perm_setAll hnodup
  obtain ⟨u, hu, hul⟩ := List.perm_comp_forall₂ hset hws
  have hsorted : u.Pairwise fun e f => e.1 < f.1 := by
    rw [← List.pairwise_map (f := Prod.fst) (R := (· < ·)), ← names_of_sameEntry hu, List.pairwise_map]
    exact (empty.setAll ws).ordered
  have hues : u = es.toList := by
    refine (hul.trans hl).eq_of_pairwise ?_ hsorted es.ordered
    intro e f _ _ hef hfe
    exact absurd hef (String.lt_asymm hfe)
  exact hues ▸ hu

end Entries

namespace Value

variable {room : Nat}

theorem rereads_list {vs : List Value} (hroom : room ≠ 0) (h : ∀ v ∈ vs, v.Rereads (room - 1)) :
    (list vs).Rereads room := by
  obtain ⟨ws, hws, hall⟩ := ofItems_of_rereads h
  refine ⟨.list ws, ?_, sameItems_iff.2 hall⟩
  rw [toJson, node, ofNode, if_neg hroom, hws]
  rfl

theorem exists_ofMembers {l : List (String × Value)} {es : Entries Value} (hl : l.Perm es.toList)
    (h : ∀ e ∈ es.toList, e.2.Rereads room) :
    ∃ fs, ofMembers room .empty (memberNodes (entriesToJson l)) = .ok fs ∧
      sameEntries fs.toList es.toList = true := by
  obtain ⟨ws, hws, hall⟩ := ofMembers_of_rereads (fun e he => h e (hl.mem_iff.1 he)) .empty
  exact ⟨_, hws, sameEntries_iff.2 (Entries.sameEntry_setAll hl hall)⟩

theorem rereads_map {es : Entries Value} (hroom : room ≠ 0) (h : ∀ e ∈ es.toList, e.2.Rereads (room - 1)) :
    (map es.toList).Rereads room := by
  obtain ⟨fs, hfs, hsame⟩ := exists_ofMembers (.refl es.toList) h
  refine ⟨.map fs.toList, ?_, hsame⟩
  rw [toJson, node, ofNode, if_neg hroom, hfs]
  rfl

theorem exists_ofItems {items : List Node} {stop : Option Break} {v : Value}
    (h : ofNode room (.array items stop) = .ok v) :
    room ≠ 0 ∧ ∃ vs, ofItems (room - 1) items = .ok vs ∧ v = .list vs := by
  rw [ofNode] at h
  split at h
  · contradiction
  · refine ⟨‹_›, ?_⟩
    cases hvs : ofItems (room - 1) items with
    | error e => simp [hvs] at h
    | ok vs => cases stop <;> simp_all [finish, Except.map]

theorem exists_ofMembers_of_ofNode {members : List (Option String × Node)} {stop : Option Break} {v : Value}
    (h : ofNode room (.object members stop) = .ok v) :
    room ≠ 0 ∧ ∃ es, ofMembers (room - 1) .empty members = .ok es ∧ v = .map es.toList := by
  rw [ofNode] at h
  split at h
  · contradiction
  · refine ⟨‹_›, ?_⟩
    cases hes : ofMembers (room - 1) .empty members with
    | error e => simp [hes] at h
    | ok es => cases stop <;> simp_all [finish, Except.map]

mutual

theorem rereads_of_ofNode : ∀ {room : Nat} {n : Node} {v : Value}, ofNode room n = .ok v → Durable v.numbers →
    v.Rereads room
  | _, .null, _, h, _ => by
    cases h
    exact ⟨.null, rfl, rfl⟩
  | _, .bool b, _, h, _ => by
    cases h
    exact ⟨.bool b, rfl, beq_self_eq_true b⟩
  | room, .number n, v, h, hd => by
    rw [ofNode] at h
    cases hn : n.number? with
    | none => simp [hn] at h
    | some x =>
      obtain rfl : number x.toBinary64 = v := by simpa [hn] using h
      exact rereads_number (hd _ (List.mem_singleton_self _) (Numeral.isFinite_number? hn)) room
  | _, .text s, _, h, _ => by
    cases h
    exact ⟨.text s, rfl, beq_self_eq_true s⟩
  | room, .array items stop, v, h, hd => by
    obtain ⟨hroom, vs, hvs, rfl⟩ := exists_ofItems h
    exact rereads_list hroom fun w hw =>
      rereads_of_ofItems hvs w hw fun x hx => hd x (mem_itemNumbers hw hx)
  | room, .object members stop, v, h, hd => by
    obtain ⟨hroom, es, hes, rfl⟩ := exists_ofMembers_of_ofNode h
    exact rereads_map hroom fun e he =>
      rereads_of_ofMembers hes (by simp [Entries.empty]) e he fun x hx => hd x (mem_entryNumbers he hx)
  | _, .cutNumeral, _, h, _ => by contradiction
  | _, .cutWord, _, h, _ => by contradiction
  | _, .unpairedText stop, _, h, _ => by contradiction
  | _, .broken b, _, h, _ => by contradiction

theorem rereads_of_ofItems : ∀ {room : Nat} {ns : List Node} {vs : List Value}, ofItems room ns = .ok vs →
    ∀ v ∈ vs, Durable v.numbers → v.Rereads room
  | _, [], _, h, _, hv, _ => by
    cases h
    contradiction
  | room, n :: ns, vs, h, v, hv, hd => by
    rw [ofItems] at h
    cases hw : ofNode room n with
    | error e => simp [hw] at h
    | ok w =>
      cases hws : ofItems room ns with
      | error e => simp [hw, hws, Except.map] at h
      | ok ws =>
        obtain rfl : w :: ws = vs := by simpa [hw, hws, Except.map] using h
        rcases List.mem_cons.1 hv with rfl | hv
        · exact rereads_of_ofNode hw hd
        · exact rereads_of_ofItems hws v hv hd

theorem rereads_of_ofMembers : ∀ {room : Nat} {ms : List (Option String × Node)} {es fs : Entries Value},
    ofMembers room es ms = .ok fs → (∀ e ∈ es.toList, Durable e.2.numbers → e.2.Rereads room) →
      ∀ e ∈ fs.toList, Durable e.2.numbers → e.2.Rereads room
  | _, [], _, _, h, hes => by
    cases h
    exact hes
  | _, (none, _) :: _, _, _, h, _ => by contradiction
  | room, (some name, n) :: ms, es, fs, h, hes => by
    rw [ofMembers] at h
    cases hv : ofNode room n with
    | error e => simp [hv] at h
    | ok v =>
      rw [hv] at h
      refine rereads_of_ofMembers h fun e he hd => ?_
      rcases Entries.mem_place he with rfl | he
      · exact rereads_of_ofNode hv hd
      · exact hes e he hd

end

theorem exists_entries {l : List (String × Value)} {es : Entries Value} (hl : l.Perm es.toList)
    (h : ∀ e ∈ es.toList, e.2.Rereads (room - 1)) :
    ∃ fs, entries room (Json.object (entriesToJson l)).node = .ok fs ∧ sameEntries fs.toList es.toList = true := by
  obtain ⟨fs, hfs, hsame⟩ := exists_ofMembers hl h
  refine ⟨fs, ?_, hsame⟩
  rw [node, entries, hfs]
  rfl

theorem rereads_of_entries {n : Node} {es : Entries Value} (h : entries room n = .ok es) :
    ∀ e ∈ es.toList, Durable e.2.numbers → e.2.Rereads (room - 1) := by
  cases n with
  | object members stop =>
    rw [entries] at h
    cases hes : ofMembers (room - 1) .empty members with
    | error e => simp [hes, bind, Except.bind] at h
    | ok fs =>
      obtain rfl : fs = es := by
        cases stop <;> simp [hes, bind, Except.bind, finish, pure, Except.pure] at h
        exact h
      exact rereads_of_ofMembers hes (by simp [Entries.empty])
  | _ => contradiction

section Attributes

variable {es : Entries Value}

def Stored (es : Entries Value) : Prop := ∀ e ∈ es.toList, Durable e.2.numbers → e.2.Rereads (depthLimit - 2)

def Alike (es fs : Entries Value) : Prop := sameEntries es.toList fs.toList = true

theorem stored_empty : Stored .empty := by simp [Stored, Entries.empty]

theorem stored_of_entries {n : Node} (h : entries (depthLimit - 1) n = .ok es) : Stored es := rereads_of_entries h

theorem exists_alike {l : List (String × Value)} (h : Stored es) (hd : Durable (entryNumbers es.toList))
    (hl : l.Perm es.toList) :
    ∃ fs, entries (depthLimit - 1) (Json.object (entriesToJson l)).node = .ok fs ∧ Alike fs es :=
  exists_entries hl fun e he => h e he fun x hx => hd x (mem_entryNumbers he hx)

theorem eq_empty_of_alike {fs : Entries Value} (h : Alike es fs) (hfs : fs.toList = []) : es = .empty := by
  obtain ⟨l, hl⟩ := es
  rw [Alike, hfs] at h
  obtain rfl : l = [] := List.forall₂_nil_right_iff.1 (sameEntries_iff.1 h)
  rfl

end Attributes

end Value

end AccessPolicy
