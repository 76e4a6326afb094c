import AccessPolicy.Policy.Matching
import AccessPolicy.Proofs.Binary64.Rounding
import AccessPolicy.Proofs.Json.Reading

namespace AccessPolicy

open Json

inductive Identity where
  | user
  | tenant
  | workspace
  deriving DecidableEq, Repr

namespace Identity

def field : Identity → String
  | user => "user_id"
  | tenant => "tenant_id"
  | workspace => "workspace_id"

def of? (r : Request) : Identity → Option UInt64
  | user => some r.user
  | tenant => some r.tenant
  | workspace => r.workspace

theorem resolve_field (i : Identity) (r : Request) : r.resolve i.field = .ofOption .ofUInt64 (i.of? r) := by
  cases i <;> rfl

end Identity

namespace Condition

section Documents

variable {value : Json} {v : Value}

def document (field operator : String) (value : Json) : Json :=
  .object [("field", .text field), ("operator", .text operator), ("value", value)]

def ReadAs (doc : Json) (c : Condition) : Prop :=
  decode doc.compact = .ok c ∧ decodeAll (Json.array [doc]).compact = .ok [c]

theorem decoder_document (field operator : String) {level : Nat}
    (hv : Value.ofNode (Value.depthLimit - level - 1) value.node = .ok v) :
    decoder level (document field operator value).node = .ok ⟨field, .ofName operator, v, .and⟩ := by
  simp [decoder, document, Json.node, Json.memberNodes, record, recordOfMembers, fields, Field.optional, nullableText,
    Decoder.option, Decoder.text, hv, Field.missing?, finish, blank, Except.map, bind, Except.bind]

theorem readAs_document (field operator : String) (hv : ∀ room, 0 < room → Value.ofNode room value.node = .ok v) :
    ReadAs (document field operator value) ⟨field, .ofName operator, v, .and⟩ := by
  have hdecode : ∀ level ≤ 1, decoder level (document field operator value).node =
      .ok ⟨field, .ofName operator, v, .and⟩ :=
    fun level hlevel => decoder_document field operator (hv _ (by rw [Value.depthLimit]; omega))
  constructor
  · rw [decode, decode_compact, hdecode 0 (by decide)]
  · have hblank : Text.isBlankText (Json.array [document field operator value]).compact = false := by
      simp [Text.isBlankText, compact, chars, Text.isBlank]
    rw [decodeAll, decodeBlob, hblank, decode_compact]
    simp [Json.node, Json.itemNodes, Decoder.option, Decoder.list, hdecode, finish, bind, Except.bind, Except.map, pure,
      Except.pure]

end Documents

section Integers

def literal (n : UInt64) : Json := .int n.toNat

theorem ofNode_literal (room : Nat) (n : UInt64) :
    Value.ofNode room (.number (.ofInt n.toNat)) = .ok (.ofUInt64 n) := by
  have hn := n.toNat_lt_size
  rw [Value.ofNode, Numeral.number?_ofInt (by omega) (by omega)]
  rfl

theorem ofItems_literals (room : Nat) (ns : List UInt64) :
    Value.ofItems room (ns.map fun n => .number (.ofInt n.toNat)) = .ok (ns.map .ofUInt64) := by
  induction ns with
  | nil => rfl
  | cons n ns ih => rw [List.map_cons, Value.ofItems, ofNode_literal, ih]; rfl

theorem itemNodes_literals (ns : List UInt64) :
    itemNodes (ns.map literal) = ns.map fun n => .number (.ofInt n.toNat) := by
  induction ns with
  | nil => rfl
  | cons n ns ih => rw [List.map_cons, itemNodes, ih]; rfl

theorem readAs_literal (field operator : String) (n : UInt64) :
    ReadAs (document field operator (literal n)) ⟨field, .ofName operator, .ofUInt64 n, .and⟩ :=
  readAs_document field operator fun room _ => ofNode_literal room n

theorem readAs_literals (field operator : String) (ns : List UInt64) :
    ReadAs (document field operator (.array (ns.map literal)))
      ⟨field, .ofName operator, .list (ns.map .ofUInt64), .and⟩ := by
  refine readAs_document field operator fun room hroom => ?_
  rw [Json.node, itemNodes_literals, Value.ofNode, if_neg (by omega), ofItems_literals]
  rfl

end Integers

end Condition

def Indistinct (m n : UInt64) : Prop := nearestWhole m.toNat = nearestWhole n.toNat

instance (m n : UInt64) : Decidable (Indistinct m n) := inferInstanceAs (Decidable (_ = _))

theorem indistinct_iff_eq {m n : UInt64} (h : m.toNat < 2 ^ 53 ∨ n.toNat < 2 ^ 53) : Indistinct m n ↔ m = n := by
  constructor
  · intro hmn
    exact UInt64.toNat_inj.1 (eq_of_nearestWhole_eq hmn h)
  · rintro rfl
    rfl

theorem compare_ofUInt64 (m n : UInt64) :
    (Value.ofUInt64 m).compare (.ofUInt64 n) = .eq ↔ Indistinct m n := by
  have hlog : ∀ k : UInt64, k.toNat.log2 ≤ 1023 := by
    intro k
    rcases Nat.eq_zero_or_pos k.toNat with hk | hk
    · rw [hk]
      decide
    · have hlt : k.toNat.log2 < 64 := (Nat.log2_lt (by omega)).2 k.toNat_lt
      omega
  have hplace : (Value.ofUInt64 m).compare (.ofUInt64 n) =
      compare ((Magnitude.ofNat m.toNat).rank : Int) (Magnitude.ofNat n.toNat).rank := rfl
  rw [hplace, Std.LawfulEqCmp.compare_eq_iff_eq, Indistinct, ← Magnitude.ofNat_eq_iff (hlog m) (hlog n),
    Int.natCast_inj]
  exact ⟨Magnitude.eq_of_rank_eq, congrArg Magnitude.rank⟩

namespace Condition

variable (mode : PatternMode) {r : Request} {i : Identity} {u : UInt64}

theorem allHold_singleton (c : Condition) (r : Request) :
    allHold mode [c] r = c.holds mode (r.resolve c.field) := rfl

theorem equal_holds_iff (hu : i.of? r = some u) (n : UInt64) (l : Logic) :
    allHold mode [⟨i.field, .equal, .ofUInt64 n, l⟩] r = true ↔ Indistinct u n := by
  rw [allHold_singleton, i.resolve_field, hu, ← compare_ofUInt64]
  exact beq_iff_eq

theorem among_holds_iff (hu : i.of? r = some u) (ns : List UInt64) (l : Logic) :
    allHold mode [⟨i.field, .among, .list (ns.map .ofUInt64), l⟩] r = true ↔ ∃ n ∈ ns, Indistinct u n := by
  rw [allHold_singleton, i.resolve_field, hu]
  simp [holds, Value.isAmong, Value.items?, Value.ofOption, compare_ofUInt64]

theorem identities_match_iff_indistinct (hu : i.of? r = some u) :
    (∀ n : UInt64, ∃ c, ReadAs (document i.field "eq" (literal n)) c ∧
      (allHold mode [c] r = true ↔ Indistinct u n) ∧
      (u.toNat < 2 ^ 53 ∨ n.toNat < 2 ^ 53 → (allHold mode [c] r = true ↔ u = n))) ∧
    ∀ ns : List UInt64, ∃ c, ReadAs (document i.field "in" (.array (ns.map literal))) c ∧
      (allHold mode [c] r = true ↔ ∃ n ∈ ns, Indistinct u n) ∧
      (u.toNat < 2 ^ 53 ∨ (∀ n ∈ ns, n.toNat < 2 ^ 53) → (allHold mode [c] r = true ↔ u ∈ ns)) := by
  constructor
  · intro n
    refine ⟨_, readAs_literal i.field "eq" n, equal_holds_iff mode hu n .and, fun hsmall => ?_⟩
    rw [← indistinct_iff_eq hsmall]
    exact equal_holds_iff mode hu n .and
  · intro ns
    refine ⟨_, readAs_literals i.field "in" ns, among_holds_iff mode hu ns .and, fun hsmall => ?_⟩
    refine (among_holds_iff mode hu ns .and).trans ⟨?_, fun hmem => ⟨u, hmem, rfl⟩⟩
    rintro ⟨n, hn, hun⟩
    rwa [(indistinct_iff_eq (hsmall.imp_right (· n hn))).1 hun]

theorem workspace_matched_exactly :
    Identity.workspace.of? { Request.blank with workspace := some 7 } = some 7 ∧
      ∃ c, ReadAs (document "workspace_id" "in" (.array [literal 3, literal 7])) c ∧
        (allHold .enabled [c] { Request.blank with workspace := some 7 } = true ↔ (7 : UInt64) ∈ [3, 7]) := by
  have hu : Identity.workspace.of? { Request.blank with workspace := some 7 } = some 7 := rfl
  obtain ⟨c, hread, -, hexact⟩ := (identities_match_iff_indistinct .enabled hu).2 [3, 7]
  exact ⟨hu, c, hread, hexact (.inl (by decide))⟩

theorem user_taken_for_neighbour :
    ∃ c, ReadAs (document "user_id" "eq" (literal 9007199254740993)) c ∧
      ¬ (allHold .enabled [c] { Request.blank with user := 9007199254740992 } = true ↔
        (9007199254740992 : UInt64) = 9007199254740993) := by
  refine ⟨_, readAs_literal "user_id" "eq" 9007199254740993, ?_⟩
  have huser : Identity.user.of? { Request.blank with user := 9007199254740992 } = some 9007199254740992 := rfl
  have hmatch := (equal_holds_iff .enabled huser 9007199254740993 .and).2 (by decide)
  exact fun h => absurd (h.1 hmatch) (by decide)

end Condition

end AccessPolicy
