import AccessPolicy.Proofs.Yaml.Scalars
import Mathlib.Data.List.Nodup
import Mathlib.Data.List.Pairwise

namespace AccessPolicy

open Yaml

namespace Yaml

inductive Node.HasMembers (n : Node) : List (Node × Node) → Prop where
  | mapping {members : List (Node × Node)} (h : n.plain = .mapping members false) : n.HasMembers members
  | nothing (h : n.plain = .empty) : n.HasMembers []

structure RecordPart (α : Type) where
  name : String
  required : Bool
  {β : Type}
  get : α → β
  IsA : Node → β → Prop

/-- Whether the record has its part from the members: from the one of that name or, where there is none and need not be,
from the first values. -/
def RecordPart.GivenBy {α : Type} (p : RecordPart α) (first : α) (members : List (Node × Node)) (a : α) : Prop :=
  (∃ m ∈ members, m.1.IsText p.name ∧ p.IsA m.2 (p.get a)) ∨
    p.required = false ∧ (∀ m ∈ members, ¬ m.1.IsText p.name) ∧ p.get a = p.get first

structure Strict (names : List String) (members : List (Node × Node)) : Prop where
  known : ∀ m ∈ members, ∃ name ∈ names, m.1.IsText name
  once : members.Pairwise fun m m' => ∀ name, m.1.IsText name → ¬ m'.1.IsText name

structure Says {α : Type} (parts : List (RecordPart α)) (first : α) (members : List (Node × Node)) (a : α) : Prop where
  strict : Strict (parts.map (·.name)) members
  given : ∀ p ∈ parts, p.GivenBy first members a

def Node.IsRecord {α : Type} (parts : List (RecordPart α)) (first : α) (n : Node) (a : α) : Prop :=
  ∃ members, n.HasMembers members ∧ Says parts first members a

end Yaml

namespace Field

variable {α : Type}

structure Reads (f : Field Node α) (p : RecordPart α) : Prop where
  name : f.name = p.name
  required : f.required = p.required
  exists_isA : ∀ n set, f.read n = .ok set → ∃ b, p.IsA n b ∧ ∀ a, p.get (set a) = b
  exists_read : ∀ n b, p.IsA n b → ∃ set, f.read n = .ok set ∧ ∀ a, p.get (set a) = b

def Leaves (f : Field Node α) (p : RecordPart α) : Prop := ∀ n set, f.read n = .ok set → ∀ a, p.get (set a) = p.get a

variable {β : Type} {f : Field Node α} {p : RecordPart α} {d : Decoder β} {set : β → α → α}

theorem reads_of_decoder (of : β → p.β) (hread : f.read = fun n => (d n).map set) (hname : f.name = p.name)
    (hrequired : f.required = p.required) (hset : ∀ b a, p.get (set b a) = of b)
    (hkind : ∀ n c, p.IsA n c ↔ ∃ b, d n = .ok b ∧ of b = c) : f.Reads p := by
  refine ⟨hname, hrequired, fun n g hg => ?_, fun n c hc => ?_⟩
  · rw [hread] at hg
    obtain ⟨b, hb, rfl⟩ := exists_of_map_ok hg
    exact ⟨of b, (hkind n _).2 ⟨b, hb, rfl⟩, hset b⟩
  · obtain ⟨b, hb, rfl⟩ := (hkind n c).1 hc
    exact ⟨set b, by simp only [hread, hb, Except.map], hset b⟩

theorem reads_optional {name : String} {get : α → β} {IsA : Node → β → Prop} (hset : ∀ b a, get (set b a) = b)
    (hkind : ∀ n b, d n = .ok b ↔ IsA n b) : (optional name d set).Reads ⟨name, false, get, IsA⟩ :=
  reads_of_decoder id rfl rfl rfl hset (by simp [hkind])

theorem leaves_of_decoder (hread : f.read = fun n => (d n).map set) (hset : ∀ b a, p.get (set b a) = p.get a) :
    f.Leaves p := by
  intro n g hg
  rw [hread] at hg
  obtain ⟨b, -, rfl⟩ := exists_of_map_ok hg
  exact hset b

@[simp]
theorem leaves_optional {name : String} (hset : ∀ b a, p.get (set b a) = p.get a) :
    (optional name d set).Leaves p :=
  leaves_of_decoder rfl hset

@[simp]
theorem leaves_needed {name : String} (hset : ∀ b a, p.get (set b a) = p.get a) : (needed name d set).Leaves p :=
  leaves_of_decoder rfl hset

end Field

namespace Yaml

variable {α : Type} {fields : List (Field Node α)} {parts : List (RecordPart α)} {first a b : α}

structure Covers (fields : List (Field Node α)) (parts : List (RecordPart α)) : Prop where
  reads : List.Forall₂ Field.Reads fields parts
  leaves : ∀ f ∈ fields, ∀ p ∈ parts, f.name ≠ p.name → f.Leaves p
  distinct : (parts.map (·.name)).Nodup
  ext : ∀ a b : α, (∀ p ∈ parts, p.get a = p.get b) → a = b

section Members

variable {k n : Node} {ms : List (Node × Node)} {seen seen' : List String}

theorem recordOfMembers_cons_eq_ok_iff {r : List String × α} :
    recordOfMembers fields seen a ((k, n) :: ms) = .ok r ↔
      ∃ f set, fields.find? (·.name == f.name) = some f ∧ k.IsText f.name ∧ f.name ∉ seen ∧ f.read n = .ok set ∧
        recordOfMembers fields (f.name :: seen) (set a) ms = .ok r := by
  constructor
  · intro h
    rw [recordOfMembers] at h
    split at h
    · contradiction
    · rename_i name hname
      split at h
      · contradiction
      · rename_i f hf
        obtain rfl : f.name = name := by simpa using List.find?_some hf
        split at h
        · contradiction
        · split at h
          · contradiction
          · exact ⟨f, _, hf, Decoder.text_eq_ok_iff.1 hname, ‹_›, ‹_›, h⟩
  · rintro ⟨f, set, hf, hname, hfresh, hset, hrest⟩
    simp only [recordOfMembers, Decoder.text_eq_ok_iff.2 hname, hf, if_neg hfresh, hset, hrest]

theorem mem_seen_iff (h : recordOfMembers fields seen a ms = .ok (seen', b)) {name : String} :
    name ∈ seen' ↔ name ∈ seen ∨ ∃ m ∈ ms, m.1.IsText name := by
  induction ms generalizing seen a with
  | nil =>
    cases h
    simp
  | cons m ms ih =>
    obtain ⟨f, set, -, hkey, -, -, hrest⟩ := recordOfMembers_cons_eq_ok_iff.1 h
    have hsaid : m.1.IsText name ↔ name = f.name := ⟨fun hname => hname.unique hkey, fun heq => heq ▸ hkey⟩
    simp only [ih hrest, List.mem_cons, exists_eq_or_imp, hsaid, or_assoc, or_left_comm]

theorem not_mem_seen (h : recordOfMembers fields seen a ms = .ok (seen', b)) {m : Node × Node} (hm : m ∈ ms)
    {name : String} (hname : m.1.IsText name) : name ∉ seen := by
  induction ms generalizing seen a with
  | nil => contradiction
  | cons m' ms ih =>
    obtain ⟨f, set, -, hkey, hfresh, -, hrest⟩ := recordOfMembers_cons_eq_ok_iff.1 h
    rcases List.mem_cons.1 hm with rfl | hm
    · rwa [hname.unique hkey]
    · exact fun hseen => ih hrest hm (List.mem_cons_of_mem _ hseen)

theorem strict_of_recordOfMembers (h : recordOfMembers fields seen a ms = .ok (seen', b)) :
    Strict (fields.map (·.name)) ms := by
  induction ms generalizing seen a with
  | nil => exact ⟨by simp, .nil⟩
  | cons m ms ih =>
    obtain ⟨f, set, hf, hkey, -, -, hrest⟩ := recordOfMembers_cons_eq_ok_iff.1 h
    obtain ⟨hknown, honce⟩ := ih hrest
    refine ⟨fun m' hm' => ?_, List.pairwise_cons.2 ⟨fun m' hm' name hname hname' => ?_, honce⟩⟩
    · rcases List.mem_cons.1 hm' with rfl | hm'
      · exact ⟨f.name, List.mem_map_of_mem (List.mem_of_find?_eq_some hf), hkey⟩
      · exact hknown m' hm'
    · exact not_mem_seen hrest hm' hname' (hname.unique hkey ▸ List.mem_cons_self)

theorem exists_recordOfMembers (hstrict : Strict (fields.map (·.name)) ms)
    (hread : ∀ m ∈ ms, ∀ f ∈ fields, m.1.IsText f.name → ∃ set, f.read m.2 = .ok set)
    (hfresh : ∀ m ∈ ms, ∀ name, m.1.IsText name → name ∉ seen) (a : α) :
    ∃ seen' b, recordOfMembers fields seen a ms = .ok (seen', b) := by
  induction ms generalizing seen a with
  | nil => exact ⟨seen, a, rfl⟩
  | cons m ms ih =>
    obtain ⟨hother, honce⟩ := List.pairwise_cons.1 hstrict.once
    obtain ⟨name, hmem, hname⟩ := hstrict.known m List.mem_cons_self
    obtain ⟨g, hg, rfl⟩ := List.mem_map.1 hmem
    obtain ⟨f, hf⟩ : ∃ f, fields.find? (·.name == g.name) = some f :=
      Option.isSome_iff_exists.1 (List.find?_isSome.2 ⟨g, hg, by simp⟩)
    have hsame : f.name = g.name := by simpa using List.find?_some hf
    rw [← hsame] at hf hname
    obtain ⟨set, hset⟩ := hread m List.mem_cons_self f (List.mem_of_find?_eq_some hf) hname
    have hlater : ∀ m' ∈ ms, ∀ name, m'.1.IsText name → name ∉ f.name :: seen := by
      intro m' hm' name hname' hseen
      rcases List.mem_cons.1 hseen with rfl | hseen
      · exact hother m' hm' _ hname hname'
      · exact hfresh m' (List.mem_cons_of_mem _ hm') name hname' hseen
    obtain ⟨seen', b, hrest⟩ := ih ⟨fun m' hm' => hstrict.known m' (List.mem_cons_of_mem _ hm'), honce⟩
      (fun m' hm' => hread m' (List.mem_cons_of_mem _ hm')) hlater (set a)
    exact ⟨seen', b, recordOfMembers_cons_eq_ok_iff.2
      ⟨f, set, hf, hname, hfresh m List.mem_cons_self _ hname, hset, hrest⟩⟩

theorem record_eq_ok_iff_members : record first fields n = .ok a ↔
    ∃ ms seen, n.HasMembers ms ∧ recordOfMembers fields [] first ms = .ok (seen, a) ∧
      ∀ f ∈ fields, f.required = true → f.name ∈ seen := by
  constructor
  · intro h
    unfold record at h
    split at h
    · rename_i members cut hplain
      obtain ⟨⟨seen, b⟩, hread, hend⟩ := exists_of_bind_ok h
      cases cut with
      | true => contradiction
      | false =>
        cases hmissing : Field.missing? fields seen with
        | some name => simp [hmissing] at hend
        | none =>
          obtain rfl : b = a := by simpa [hmissing] using hend
          exact ⟨members, seen, .mapping hplain, hread, Field.missing?_eq_none_iff.1 hmissing⟩
    · rename_i hplain
      cases hmissing : Field.missing? fields [] with
      | some name => simp [hmissing] at h
      | none =>
        obtain rfl : first = a := by simpa [hmissing] using h
        exact ⟨[], [], .nothing hplain, rfl, Field.missing?_eq_none_iff.1 hmissing⟩
    · contradiction
  · rintro ⟨ms, seen, hmembers, hread, hrequired⟩
    have hmissing := Field.missing?_eq_none_iff.2 hrequired
    cases hmembers with
    | mapping hplain => simp [record, hplain, hread, hmissing, bind, Except.bind]
    | nothing hplain =>
      cases hread
      simp [record, hplain, Node.empty, hmissing]

theorem Node.HasMembers.unique {ms' : List (Node × Node)} (h : n.HasMembers ms) (h' : n.HasMembers ms') : ms = ms' := by
  cases h with
  | mapping hplain =>
    cases h' with
    | mapping hplain' =>
      rw [hplain] at hplain'
      injection hplain'
    | nothing hplain' =>
      rw [hplain] at hplain'
      contradiction
  | nothing hplain =>
    cases h' with
    | mapping hplain' =>
      rw [hplain] at hplain'
      contradiction
    | nothing hplain' => rfl

end Members

section Parts

variable {n : Node} {ms : List (Node × Node)} {seen seen' : List String} {p : RecordPart α} {f : Field Node α}

theorem Strict.eq_of_isText {names : List String} (h : Strict names ms) {m m' : Node × Node} (hm : m ∈ ms)
    (hm' : m' ∈ ms) {name : String} (hname : m.1.IsText name) (hname' : m'.1.IsText name) : m = m' := by
  refine Classical.byContradiction fun hne => ?_
  have hsymm : Std.Symm fun m m' : Node × Node => ∀ name, m.1.IsText name → ¬ m'.1.IsText name :=
    ⟨fun _ _ hother name h' h => hother name h h'⟩
  exact h.once.forall hm hm' hne name hname hname'

theorem exists_of_forall₂ {β γ : Type*} {R : β → γ → Prop} {bs : List β} {cs : List γ} (h : List.Forall₂ R bs cs)
    {b : β} (hb : b ∈ bs) : ∃ c ∈ cs, R b c := by
  induction h with
  | nil => contradiction
  | cons hr _ ih =>
    rcases List.mem_cons.1 hb with rfl | hb
    · exact ⟨_, List.mem_cons_self, hr⟩
    · obtain ⟨c, hc, hrest⟩ := ih hb
      exact ⟨c, List.mem_cons_of_mem _ hc, hrest⟩

theorem get_unique_of_reads (h : f.Reads p) {a b : α} (ha : p.IsA n (p.get a)) (hb : p.IsA n (p.get b)) :
    p.get a = p.get b := by
  obtain ⟨set, hset, hget⟩ := h.exists_read n _ ha
  obtain ⟨set', hset', hget'⟩ := h.exists_read n _ hb
  obtain rfl : set = set' := Except.ok.inj (hset.symm.trans hset')
  rw [← hget a, hget' a]

namespace Covers

variable (h : Covers fields parts)

include h

theorem names_eq : fields.map (·.name) = parts.map (·.name) := by
  have hnames : List.Forall₂ (· = ·) (fields.map (·.name)) (parts.map (·.name)) :=
    List.forall₂_map_left_iff.2 (List.forall₂_map_right_iff.2 (h.reads.imp fun _ _ hreads => hreads.name))
  rwa [List.forall₂_eq_eq_eq] at hnames

theorem exists_part (hf : f ∈ fields) : ∃ p ∈ parts, f.Reads p := exists_of_forall₂ h.reads hf

theorem exists_field (hp : p ∈ parts) : ∃ f ∈ fields, f.Reads p := exists_of_forall₂ h.reads.flip hp

theorem reads_of_name (hf : f ∈ fields) (hp : p ∈ parts) (hname : f.name = p.name) : f.Reads p := by
  obtain ⟨q, hq, hreads⟩ := h.exists_part hf
  obtain rfl : q = p := List.inj_on_of_nodup_map h.distinct hq hp (hreads.name.symm.trans hname)
  exact hreads

theorem get_of_recordOfMembers (hp : p ∈ parts) (hread : recordOfMembers fields seen a ms = .ok (seen', b)) :
    (∃ m ∈ ms, m.1.IsText p.name ∧ p.IsA m.2 (p.get b)) ∨ (∀ m ∈ ms, ¬ m.1.IsText p.name) ∧ p.get b = p.get a := by
  induction ms generalizing seen a with
  | nil =>
    cases hread
    exact .inr ⟨by simp, rfl⟩
  | cons m ms ih =>
    obtain ⟨f, set, hf, hkey, -, hset, hrest⟩ := recordOfMembers_cons_eq_ok_iff.1 hread
    have hmem : f ∈ fields := List.mem_of_find?_eq_some hf
    rcases ih hrest with ⟨m', hm', hname, hvalue⟩ | ⟨hnone, hget⟩
    · exact .inl ⟨m', List.mem_cons_of_mem _ hm', hname, hvalue⟩
    · by_cases hname : f.name = p.name
      · obtain ⟨c, hc, hsets⟩ := (h.reads_of_name hmem hp hname).exists_isA m.2 set hset
        exact .inl ⟨m, List.mem_cons_self, hname ▸ hkey, by rwa [hget, hsets]⟩
      · refine .inr ⟨fun m' hm' => ?_, hget.trans (h.leaves f hmem p hp hname m.2 set hset a)⟩
        rcases List.mem_cons.1 hm' with rfl | hm'
        · exact fun hsaid => hname (hkey.unique hsaid)
        · exact hnone m' hm'

-- a part that one of the two has from a member the other has from the same member, as no name stands twice
theorem says_unique (ha : Says parts first ms a) (hb : Says parts first ms b) : a = b := by
  refine h.ext a b fun p hp => ?_
  obtain ⟨f, -, hreads⟩ := h.exists_field hp
  rcases ha.given p hp with ⟨m, hm, hname, hvalue⟩ | ⟨-, hnone, hget⟩ <;>
    rcases hb.given p hp with ⟨m', hm', hname', hvalue'⟩ | ⟨-, hnone', hget'⟩
  · obtain rfl := ha.strict.eq_of_isText hm hm' hname hname'
    exact get_unique_of_reads hreads hvalue hvalue'
  · exact absurd hname (hnone' m hm)
  · exact absurd hname' (hnone m' hm')
  · rw [hget, hget']

theorem says_of_recordOfMembers (hread : recordOfMembers fields [] first ms = .ok (seen, a))
    (hrequired : ∀ f ∈ fields, f.required = true → f.name ∈ seen) : Says parts first ms a := by
  refine ⟨h.names_eq ▸ strict_of_recordOfMembers hread, fun p hp => ?_⟩
  refine (h.get_of_recordOfMembers hp hread).imp_right fun ⟨hnone, hget⟩ => ⟨?_, hnone, hget⟩
  obtain ⟨f, hf, hreads⟩ := h.exists_field hp
  rw [← hreads.required, ← Bool.not_eq_true]
  intro hreq
  obtain ⟨m, hm, hname⟩ := ((mem_seen_iff hread).1 (hrequired f hf hreq)).resolve_left (List.not_mem_nil)
  exact hnone m hm (hreads.name ▸ hname)

theorem exists_recordOfMembers_of_said (hsaid : Says parts first ms a) :
    ∃ seen b, recordOfMembers fields [] first ms = .ok (seen, b) ∧ ∀ f ∈ fields, f.required = true → f.name ∈ seen := by
  have hvalue : ∀ m ∈ ms, ∀ f ∈ fields, m.1.IsText f.name → ∃ set, f.read m.2 = .ok set := by
    intro m hm f hf hname
    obtain ⟨p, hp, hreads⟩ := h.exists_part hf
    rw [hreads.name] at hname
    rcases hsaid.given p hp with ⟨m', hm', hname', hvalue⟩ | ⟨-, hnone, -⟩
    · obtain rfl := hsaid.strict.eq_of_isText hm hm' hname hname'
      obtain ⟨set, hset, -⟩ := hreads.exists_read m.2 _ hvalue
      exact ⟨set, hset⟩
    · exact absurd hname (hnone m hm)
  obtain ⟨seen, b, hread⟩ :=
    exists_recordOfMembers (h.names_eq ▸ hsaid.strict) hvalue (fun _ _ _ _ => List.not_mem_nil) first
  refine ⟨seen, b, hread, fun f hf hreq => (mem_seen_iff hread).2 (.inr ?_)⟩
  obtain ⟨p, hp, hreads⟩ := h.exists_part hf
  rcases hsaid.given p hp with ⟨m, hm, hname, -⟩ | ⟨hoptional, -, -⟩
  · exact ⟨m, hm, hreads.name ▸ hname⟩
  · rw [hreads.required, hoptional] at hreq
    contradiction

theorem record_eq_ok_iff : record first fields n = .ok a ↔ n.IsRecord parts first a := by
  rw [record_eq_ok_iff_members]
  constructor
  · rintro ⟨ms, seen, hmembers, hread, hrequired⟩
    exact ⟨ms, hmembers, h.says_of_recordOfMembers hread hrequired⟩
  · rintro ⟨ms, hmembers, hsaid⟩
    obtain ⟨seen, b, hread, hrequired⟩ := h.exists_recordOfMembers_of_said hsaid
    obtain rfl : a = b := h.says_unique hsaid (h.says_of_recordOfMembers hread hrequired)
    exact ⟨ms, seen, hmembers, hread, hrequired⟩

theorem record_eq_ok_iff_said (hmembers : n.HasMembers ms) : record first fields n = .ok a ↔ Says parts first ms a := by
  rw [h.record_eq_ok_iff]
  constructor
  · rintro ⟨ms', hmembers', hsaid⟩
    rwa [hmembers.unique hmembers']
  · exact fun hsaid => ⟨ms, hmembers, hsaid⟩

end Covers

end Parts

end Yaml

end AccessPolicy
