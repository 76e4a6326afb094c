import AccessPolicy.Json.Record
import AccessPolicy.Proofs.Fallible
import AccessPolicy.Proofs.Json.Reading

namespace AccessPolicy

open Json

namespace Field

variable {ν α β : Type} {P : α → Prop}

def Keeps (P : α → Prop) (f : Field ν α) : Prop := ∀ n set, f.read n = .ok set → ∀ a, P a → P (set a)

theorem keeps_of_read {f : Field ν α} {d : ν → Except DecodeFault β} {set : β → α → α}
    (hread : f.read = fun n => (d n).map set) (h : ∀ n b, d n = .ok b → ∀ a, P a → P (set b a)) : f.Keeps P := by
  intro n g hg a ha
  rw [hread] at hg
  obtain ⟨b, hb, rfl⟩ := exists_of_map_ok hg
  exact h n b hb a ha

end Field

namespace Json

variable {α γ : Type} {fields : List (Field Node α)} {first a b : α} {P : α → Prop}

section Invariants

variable (hfields : ∀ f ∈ fields, f.Keeps P)

include hfields

theorem recordOfMembers_keeps {members : List (Option String × Node)} {seen seen' : List String}
    (h : recordOfMembers fields seen a members = .ok (seen', b)) (ha : P a) : P b := by
  induction members generalizing seen a with
  | nil =>
    cases h
    exact ha
  | cons m ms ih =>
    obtain ⟨name, n⟩ := m
    cases name with
    | none => contradiction
    | some name =>
      rw [recordOfMembers] at h
      cases hf : fields.find? (·.name == name) with
      | none =>
        rw [hf] at h
        cases hskip : n.skip? with
        | some e => simp [hskip] at h
        | none =>
          simp only [hskip] at h
          exact ih h ha
      | some f =>
        rw [hf] at h
        simp only at h
        split at h
        · contradiction
        · cases hset : f.read n with
          | error e => simp [hset] at h
          | ok set =>
            simp only [hset] at h
            exact ih h (hfields f (List.mem_of_find?_eq_some hf) n set hset a ha)

theorem recordOfItems_keeps {stop : Option Break} {items : List Node} {fs : List (Field Node α)}
    (hfs : ∀ f ∈ fs, f ∈ fields) (h : recordOfItems stop fs a items = .ok b) (ha : P a) : P b := by
  induction fs generalizing a items with
  | nil =>
    cases items with
    | nil =>
      obtain ⟨-, -, rfl⟩ := exists_of_map_ok h
      exact ha
    | cons n ns => contradiction
  | cons f fs ih =>
    have hlater : ∀ g ∈ fs, g ∈ fields := fun g hg => hfs g (List.mem_cons_of_mem _ hg)
    cases items with
    | nil =>
      unfold recordOfItems at h
      split at h
      · contradiction
      · split at h
        · contradiction
        · exact ih hlater h ha
    | cons n ns =>
      rw [recordOfItems] at h
      cases hset : f.read n with
      | error e => simp [hset] at h
      | ok set =>
        simp only [hset] at h
        exact ih hlater h (hfields f (hfs f List.mem_cons_self) n set hset a ha)

theorem record_keeps {n : Node} (h : record first fields n = .ok a) (hfirst : P first) : P a := by
  cases n with
  | array items stop => exact recordOfItems_keeps hfields (fun _ hf => hf) h hfirst
  | object members stop =>
    rw [record] at h
    cases hmembers : recordOfMembers fields [] first members with
    | error e => simp [hmembers, bind, Except.bind] at h
    | ok read =>
      obtain ⟨seen, b⟩ := read
      have hb : P b := recordOfMembers_keeps hfields hmembers hfirst
      cases stop with
      | some e => simp [hmembers, bind, Except.bind, finish] at h
      | none =>
        cases hmissing : Field.missing? fields seen with
        | some name => simp [hmembers, bind, Except.bind, finish, hmissing] at h
        | none =>
          obtain rfl : b = a := by simpa [hmembers, bind, Except.bind, finish, hmissing] using h
          exact hb
  | _ => contradiction

end Invariants

section Members

theorem exists_read_of_mem_members {members : List (Option String × Node)} {seen seen' : List String}
    (h : recordOfMembers fields seen a members = .ok (seen', b)) {name : String} {n : Node}
    (hn : (some name, n) ∈ members) {f : Field Node α} (hf : fields.find? (·.name == name) = some f) : ∃ set, f.read n = .ok set := by
  induction members generalizing seen a with
  | nil => contradiction
  | cons m ms ih =>
    obtain ⟨key, k⟩ := m
    cases key with
    | none => contradiction
    | some key =>
      rw [recordOfMembers] at h
      cases hg : fields.find? (·.name == key) with
      | none =>
        rw [hg] at h
        cases hskip : k.skip? with
        | some e => simp [hskip] at h
        | none =>
          simp only [hskip] at h
          refine ih h ((List.mem_cons.1 hn).resolve_left ?_)
          rintro heq
          obtain ⟨hname, -⟩ := Prod.mk.inj heq
          rw [Option.some.inj hname, hg] at hf
          contradiction
      | some g =>
        rw [hg] at h
        simp only at h
        split at h
        · contradiction
        · cases hset : g.read k with
          | error e => simp [hset] at h
          | ok set =>
            simp only [hset] at h
            rcases List.mem_cons.1 hn with heq | hn
            · obtain ⟨hname, rfl⟩ := Prod.mk.inj heq
              rw [Option.some.inj hname, hg] at hf
              exact ⟨set, Option.some.inj hf ▸ hset⟩
            · exact ih h hn

theorem exists_read_of_record {members : List (Option String × Node)} {stop : Option Break}
    (h : record first fields (.object members stop) = .ok a) {name : String} {n : Node} (hn : (some name, n) ∈ members)
    {f : Field Node α} (hf : fields.find? (·.name == name) = some f) : ∃ set, f.read n = .ok set := by
  obtain ⟨⟨seen, b⟩, hmembers, -⟩ := exists_of_bind_ok h
  exact exists_read_of_mem_members hmembers hn hf

end Members

section Writing

/-- Members that come in the order of the fields, each with what it changes in the record; fields that need not be
there may be left out. -/
inductive Fills : List (Field Node α) → List (Option String × Node) → α → α → Prop where
  | done (a : α) : Fills [] [] a a
  | member {f : Field Node α} {fs : List (Field Node α)} {n : Node} {ms : List (Option String × Node)} {a b : α}
    {set : α → α} (hread : f.read n = .ok set) (hrest : Fills fs ms (set a) b) :
    Fills (f :: fs) ((some f.name, n) :: ms) a b
  | omitted {f : Field Node α} {fs : List (Field Node α)} {ms : List (Option String × Node)} {a b : α}
    (hoptional : f.required = false) (hrest : Fills fs ms a b) : Fills (f :: fs) ms a b

theorem Fills.needed {name : String} {d : Node → Except DecodeFault γ} {set : γ → α → α} {fs : List (Field Node α)}
    {n : Node} {ms : List (Option String × Node)} {c : γ} (hread : d n = .ok c) (hrest : Fills fs ms (set c a) b) :
    Fills (.needed name d set :: fs) ((some name, n) :: ms) a b :=
  .member (congrArg (·.map set) hread) hrest

theorem Fills.optional {name : String} {d : Node → Except DecodeFault γ} {set : γ → α → α} {fs : List (Field Node α)}
    {n : Node} {ms : List (Option String × Node)} {c : γ} (hread : d n = .ok c) (hrest : Fills fs ms (set c a) b) :
    Fills (.optional name d set :: fs) ((some name, n) :: ms) a b :=
  .member (congrArg (·.map set) hread) hrest

theorem find?_name {f : Field Node α} (hf : f ∈ fields) (hnames : (fields.map (·.name)).Nodup) :
    fields.find? (·.name == f.name) = some f := by
  induction fields with
  | nil => contradiction
  | cons g gs ih =>
    obtain ⟨hg, hgs⟩ := List.nodup_cons.1 (List.map_cons ▸ hnames)
    rcases List.mem_cons.1 hf with rfl | hf
    · simp
    · have hne : g.name ≠ f.name := fun h => hg (h ▸ List.mem_map_of_mem hf)
      rw [List.find?_cons_of_neg (by simpa using hne)]
      exact ih hf hgs

theorem recordOfMembers_of_fills {fs : List (Field Node α)} {members : List (Option String × Node)}
    (h : Fills fs members a b) (hall : (fields.map (·.name)).Nodup) (hfs : (fs.map (·.name)).Nodup)
    (hsub : ∀ f ∈ fs, f ∈ fields) (seen : List String) (hseen : ∀ f ∈ fs, f.name ∉ seen) :
    ∃ seen', recordOfMembers fields seen a members = .ok (seen', b) ∧ (∀ name ∈ seen, name ∈ seen') ∧
      ∀ f ∈ fs, f.required = true → f.name ∈ seen' := by
  induction h generalizing seen with
  | done a => exact ⟨seen, rfl, fun _ hname => hname, by simp⟩
  | @member f fs n ms a b set hread hrest ih =>
    obtain ⟨hf, hfs⟩ := List.nodup_cons.1 (List.map_cons ▸ hfs)
    have hfresh : ∀ g ∈ fs, g.name ∉ f.name :: seen := by
      intro g hg hname
      rcases List.mem_cons.1 hname with heq | hname
      · exact hf (heq ▸ List.mem_map_of_mem hg)
      · exact hseen g (List.mem_cons_of_mem _ hg) hname
    obtain ⟨seen', hrun, hkept, hrequired⟩ := ih hfs (fun g hg => hsub g (List.mem_cons_of_mem _ hg)) _ hfresh
    refine ⟨seen', ?_, fun name hname => hkept name (List.mem_cons_of_mem _ hname), fun g hg hreq => ?_⟩
    · rw [recordOfMembers, find?_name (hsub f List.mem_cons_self) hall]
      simp only [if_neg (hseen f List.mem_cons_self), hread]
      exact hrun
    · rcases List.mem_cons.1 hg with rfl | hg
      · exact hkept _ List.mem_cons_self
      · exact hrequired g hg hreq
  | @omitted f fs ms a b hoptional hrest ih =>
    obtain ⟨-, hfs⟩ := List.nodup_cons.1 (List.map_cons ▸ hfs)
    obtain ⟨seen', hrun, hkept, hrequired⟩ :=
      ih hfs (fun g hg => hsub g (List.mem_cons_of_mem _ hg)) seen (fun g hg => hseen g (List.mem_cons_of_mem _ hg))
    refine ⟨seen', hrun, hkept, fun g hg hreq => ?_⟩
    rcases List.mem_cons.1 hg with rfl | hg
    · rw [hoptional] at hreq
      contradiction
    · exact hrequired g hg hreq

theorem record_of_fills {members : List (Option String × Node)} (hnames : (fields.map (·.name)).Nodup)
    (h : Fills fields members first a) : record first fields (.object members none) = .ok a := by
  obtain ⟨seen, hrun, -, hrequired⟩ := recordOfMembers_of_fills h hnames hnames (fun _ hf => hf) [] (by simp)
  have hmissing : Field.missing? fields seen = none := Field.missing?_eq_none_iff.2 hrequired
  simp [record, hrun, finish, hmissing, bind, Except.bind]

end Writing

end Json

end AccessPolicy
