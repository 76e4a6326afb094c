import AccessPolicy.Proofs.Fallible
import AccessPolicy.Yaml.Decode
import Mathlib.Data.List.Forall2
import Mathlib.Data.Nat.Digits.Defs

namespace AccessPolicy.Yaml

section Numerals

def IsNumeral (base : Nat) (cs : List Char) (k : Nat) : Prop :=
  cs ≠ [] ∧ ∃ ds, List.Forall₂ (fun c d => digitOf? base c = some d) cs ds ∧ k = Nat.ofDigits base ds.reverse

/-- How whole numbers are written without a sign: decimal digits without an idle zero before them, or the digits of
another base after its mark. -/
inductive Spells : List Char → Nat → Prop where
  | decimal {cs : List Char} {k : Nat} (hdigits : IsNumeral 10 cs k) (hzero : cs.head? = some '0' → cs = ['0']) :
    Spells cs k
  | hexadecimal {cs : List Char} {k : Nat} (hdigits : IsNumeral 16 cs k) : Spells ('0' :: 'x' :: cs) k
  | octal {cs : List Char} {k : Nat} (hdigits : IsNumeral 8 cs k) : Spells ('0' :: 'o' :: cs) k
  | binary {cs : List Char} {k : Nat} (hdigits : IsNumeral 2 cs k) : Spells ('0' :: 'b' :: cs) k

variable {base k : Nat} {cs : List Char}

theorem mapM_eq_some_iff {α β : Type} {f : α → Option β} {as : List α} {bs : List β} :
    as.mapM f = some bs ↔ List.Forall₂ (fun a b => f a = some b) as bs := by
  induction as generalizing bs with
  | nil => cases bs <;> simp
  | cons a as ih =>
    rw [List.mapM_cons, List.forall₂_cons_left_iff]
    cases ha : f a with
    | none => simp
    | some b =>
      simp only [Option.bind_eq_bind, Option.bind_some, Option.pure_def, Option.bind_eq_some_iff, ih, Option.some.injEq]
      constructor
      · rintro ⟨cs, hcs, rfl⟩
        exact ⟨b, cs, rfl, hcs, rfl⟩
      · rintro ⟨_, cs, rfl, hcs, rfl⟩
        exact ⟨cs, hcs, rfl⟩

theorem foldl_digits (base : Nat) (ds : List Nat) :
    ds.foldl (fun n d => base * n + d) 0 = Nat.ofDigits base ds.reverse := by
  rw [Nat.ofDigits_eq_foldr, List.foldr_reverse]
  simp only [Nat.cast_id, Nat.add_comm]

theorem digitsIn?_eq_some_iff : digitsIn? base cs = some k ↔ IsNumeral base cs k ∧ k < UInt64.size := by
  rw [digitsIn?, IsNumeral]
  constructor
  · intro h
    split at h
    · rename_i d ds hds
      rw [mapM_eq_some_iff] at hds
      simp only [foldl_digits, Option.ite_none_right_eq_some, Option.some.injEq] at h
      obtain ⟨hsize, rfl⟩ := h
      have hne : cs ≠ [] := by
        rintro rfl
        cases hds
      exact ⟨⟨hne, _, hds, rfl⟩, hsize⟩
    · contradiction
  · rintro ⟨⟨hne, ds, hds, rfl⟩, hsize⟩
    rw [mapM_eq_some_iff.2 hds]
    cases hds with
    | nil => contradiction
    | cons hd hds => simp only [foldl_digits, if_pos hsize]

theorem not_spells_plus : ¬ Spells ('+' :: cs) k := by
  intro h
  cases h with
  | decimal hdigits =>
    obtain ⟨-, ds, hds, -⟩ := hdigits
    obtain ⟨d, -, hd, -⟩ := List.forall₂_cons_left_iff.1 hds
    simp [digitOf?] at hd

def unsigned? (cs : List Char) : Option Nat :=
  match cs with
  | '0' :: 'x' :: r => digitsIn? 16 r
  | '0' :: 'o' :: r => digitsIn? 8 r
  | '0' :: 'b' :: r => digitsIn? 2 r
  | '0' :: _ :: _ => none
  | r => digitsIn? 10 r

theorem unsigned?_eq_some_iff : unsigned? cs = some k ↔ Spells cs k ∧ k < UInt64.size := by
  constructor
  · intro h
    unfold unsigned? at h
    split at h
    · exact (digitsIn?_eq_some_iff.1 h).imp_left .hexadecimal
    · exact (digitsIn?_eq_some_iff.1 h).imp_left .octal
    · exact (digitsIn?_eq_some_iff.1 h).imp_left .binary
    · contradiction
    · rename_i hlong
      refine (digitsIn?_eq_some_iff.1 h).imp_left fun hdigits => .decimal hdigits fun hhead => ?_
      obtain ⟨r, rfl⟩ := List.head?_eq_some_iff.1 hhead
      cases r with
      | nil => rfl
      | cons c r => exact absurd rfl (hlong c r)
  · rintro ⟨h, hsize⟩
    cases h with
    | decimal hdigits hzero =>
      unfold unsigned?
      split
      · simp at hzero
      · simp at hzero
      · simp at hzero
      · simp at hzero
      · exact digitsIn?_eq_some_iff.2 ⟨hdigits, hsize⟩
    | hexadecimal hdigits => exact digitsIn?_eq_some_iff.2 ⟨hdigits, hsize⟩
    | octal hdigits => exact digitsIn?_eq_some_iff.2 ⟨hdigits, hsize⟩
    | binary hdigits => exact digitsIn?_eq_some_iff.2 ⟨hdigits, hsize⟩

theorem natural?_of_head (h : cs.head? ≠ some '+') : natural? cs = unsigned? cs := by
  refine congrArg unsigned? ?_
  split
  · exact absurd rfl h
  · rfl

theorem natural?_eq_some_iff :
    natural? cs = some k ↔ (∃ body, (cs = body ∨ cs = '+' :: body) ∧ Spells body k) ∧ k < UInt64.size := by
  by_cases hplus : cs.head? = some '+'
  · obtain ⟨body, rfl⟩ := List.head?_eq_some_iff.1 hplus
    have hread : natural? ('+' :: body) = unsigned? body := rfl
    rw [hread, unsigned?_eq_some_iff]
    refine and_congr_left fun _ => ⟨fun h => ⟨body, .inr rfl, h⟩, ?_⟩
    rintro ⟨body', rfl | heq, h⟩
    · exact absurd h not_spells_plus
    · obtain ⟨-, rfl⟩ := List.cons.inj heq
      exact h
  · rw [natural?_of_head hplus, unsigned?_eq_some_iff]
    refine and_congr_left fun _ => ⟨fun h => ⟨cs, .inl rfl, h⟩, ?_⟩
    rintro ⟨body, rfl | rfl, h⟩
    · exact h
    · exact absurd rfl hplus

end Numerals

namespace Node

variable {α : Type} {n : Node}

def IsText (n : Node) (s : String) : Prop := ∃ style, n.plain = .scalar s style

/-- Whether the node is a scalar of the text that may be more than a text: it has no quotes, and as a block of lines it
needs the tag of its kind. -/
inductive IsBare (kind : String) (n : Node) (s : String) : Prop where
  | plain (hplain : n.plain = .scalar s .plain)
  | literal (hplain : n.plain = .scalar s .literal) (htag : n.tag? = some (.core kind))

def IsNatural (n : Node) (k : Nat) : Prop :=
  ∃ s body, n.IsBare "int" s ∧ (s.toList = body ∨ s.toList = '+' :: body) ∧ Spells body k

def IsFlag (n : Node) (b : Bool) : Prop :=
  ∃ s, n.IsBare "bool" s ∧ s ∈ if b then ["true", "True", "TRUE"] else ["false", "False", "FALSE"]

def nulls : List String := ["~", "null", "Null", "NULL"]

def nothings : List String := "" :: nulls

inductive IsWord (words : List (String × α)) (n : Node) (a : α) : Prop where
  | scalar {s : String} {style : ScalarStyle} (hplain : n.plain = .scalar s style) (hname : n.name? = none)
    (hword : words.lookup s = some a)
  | name {s t : String} (hname : n.name? = some s) (hword : words.lookup s = some a)
    (hplain : n.plain = .scalar t .plain) (hnothing : t ∈ nothings)

/-- Whether the node is a text, or else nothing: without quotes, what may be nothing is a text only under the tag of
something else than nulls. -/
inductive IsOptionText (n : Node) : Option String → Prop where
  | nothing {s : String} (hplain : n.plain = .scalar s .plain) (htag : n.tag? = none) (hs : s ∈ nothings) :
    IsOptionText n none
  | null {s : String} (hplain : n.plain = .scalar s .plain) (htag : n.tag? = some (.core "null")) (hs : s ∈ nulls) :
    IsOptionText n none
  | text {s : String} (hs : n.IsText s)
    (hsome : n.plain = .scalar s .plain → n.tag? ≠ some (.core "null") ∧ (n.tag? = none → s ∉ nothings)) :
    IsOptionText n (some s)

theorem IsText.unique {s t : String} (h : n.IsText s) (h' : n.IsText t) : s = t := by
  obtain ⟨style, hs⟩ := h
  obtain ⟨style', ht⟩ := h'
  rw [hs] at ht
  injection ht

end Node

namespace Decoder

variable {α : Type} {n : Node}

theorem text_eq_ok_iff {s : String} : text n = .ok s ↔ n.IsText s := by
  rw [text, Node.IsText]
  cases n.plain <;> simp

theorem bare_eq_ok_iff {kind s : String} : bare kind n = .ok s ↔ n.IsBare kind s := by
  constructor
  · intro h
    rw [bare] at h
    split at h
    · obtain rfl := Except.ok.inj h
      exact .plain ‹_›
    · split at h
      · obtain rfl := Except.ok.inj h
        exact .literal ‹_› ‹_›
      · contradiction
    · contradiction
  · intro h
    cases h with
    | plain hplain => simp only [bare, hplain]
    | literal hplain htag => simp only [bare, hplain, if_pos htag]

theorem natural_eq_ok_iff {high k : Nat} (hhigh : high < UInt64.size) :
    natural high n = .ok k ↔ n.IsNatural k ∧ k ≤ high := by
  constructor
  · intro h
    obtain ⟨s, hs, h⟩ := exists_of_bind_ok h
    split at h
    · rename_i i hi
      split at h
      · obtain rfl := Except.ok.inj h
        obtain ⟨⟨body, hbody, hspells⟩, -⟩ := natural?_eq_some_iff.1 hi
        exact ⟨⟨s, body, bare_eq_ok_iff.1 hs, hbody, hspells⟩, ‹_›⟩
      · contradiction
    · contradiction
  · rintro ⟨⟨s, body, hs, hbody⟩, hle⟩
    have hread : natural? s.toList = some k :=
      natural?_eq_some_iff.2 ⟨⟨body, hbody⟩, Nat.lt_of_le_of_lt hle hhigh⟩
    simp only [natural, bare_eq_ok_iff.2 hs, bind, Except.bind, hread, if_pos hle]

theorem bool_eq_ok_iff {b : Bool} : bool n = .ok b ↔ n.IsFlag b := by
  constructor
  · intro h
    obtain ⟨s, hs, h⟩ := exists_of_bind_ok h
    split at h
    · obtain rfl := Except.ok.inj h
      exact ⟨s, bare_eq_ok_iff.1 hs, by simpa⟩
    · split at h
      · obtain rfl := Except.ok.inj h
        exact ⟨s, bare_eq_ok_iff.1 hs, by simpa⟩
      · contradiction
  · rintro ⟨s, hs, hword⟩
    cases b with
    | true =>
      have htrue : s = "true" ∨ s = "True" ∨ s = "TRUE" := by simpa using hword
      simp only [bool, bare_eq_ok_iff.2 hs, bind, Except.bind, if_pos htrue]
    | false =>
      have hfalse : s = "false" ∨ s = "False" ∨ s = "FALSE" := by simpa using hword
      have htrue : ¬ (s = "true" ∨ s = "True" ∨ s = "TRUE") := by rcases hfalse with rfl | rfl | rfl <;> decide
      simp only [bool, bare_eq_ok_iff.2 hs, bind, Except.bind, if_neg htrue, if_pos hfalse]

theorem lookUp_eq_ok_iff {words : List (String × α)} {s : String} {a : α} :
    lookUp words s = .ok a ↔ words.lookup s = some a := by
  rw [lookUp]
  cases words.lookup s <;> simp

theorem isNull_iff {s : String} : isNull s = true ↔ s ∈ Node.nulls := by simp [isNull, Node.nulls, or_assoc]

theorem isNothing_iff {s : String} : s = "" ∨ isNull s = true ↔ s ∈ Node.nothings := by
  rw [isNull_iff, Node.nothings, List.mem_cons]

theorem nothing_eq_ok_iff : nothing n = .ok () ↔ ∃ s, n = .scalar s .plain ∧ s ∈ Node.nothings := by
  constructor
  · intro h
    unfold nothing at h
    split at h
    · split at h
      · exact ⟨_, rfl, isNothing_iff.1 ‹_›⟩
      · contradiction
    · contradiction
    · contradiction
  · rintro ⟨s, rfl, hs⟩
    exact if_pos (isNothing_iff.2 hs)

theorem word_eq_ok_iff {words : List (String × α)} {a : α} : word words n = .ok a ↔ n.IsWord words a := by
  constructor
  · intro h
    unfold word at h
    split at h
    · rename_i s hname
      obtain ⟨b, hword, hafter⟩ := exists_of_bind_ok h
      obtain ⟨⟨⟩, hnothing, heq⟩ := exists_of_bind_ok hafter
      obtain rfl := Except.ok.inj heq
      obtain ⟨t, hplain, ht⟩ := nothing_eq_ok_iff.1 hnothing
      exact .name hname (lookUp_eq_ok_iff.1 hword) hplain ht
    · exact .scalar ‹_› ‹_› (lookUp_eq_ok_iff.1 h)
    · contradiction
  · intro h
    cases h with
    | scalar hplain hname hword => simp only [word, hname, hplain, lookUp_eq_ok_iff.2 hword]
    | name hname hword hplain hnothing =>
      simp only [word, hname, lookUp_eq_ok_iff.2 hword, nothing_eq_ok_iff.2 ⟨_, hplain, hnothing⟩]
      rfl

theorem optionText_of_untagged {s : String} (hplain : n.plain = .scalar s .plain) (htag : n.tag? = none) :
    optionText n = .ok (if s ∈ Node.nothings then none else some s) := by
  simp only [optionText, hplain, htag, isNothing_iff]

theorem optionText_of_tagged {s : String} {t : Tag} (hplain : n.plain = .scalar s .plain) (htag : n.tag? = some t) :
    optionText n =
      if t ≠ .core "null" then .ok (some s) else if s ∈ Node.nulls then .ok none else .error .invalidValue := by
  simp only [optionText, hplain, htag, isNull_iff]

theorem optionText_of_ne_plain {s : String} {style : ScalarStyle} (hplain : n.plain = .scalar s style)
    (hstyle : style ≠ .plain) : optionText n = .ok (some s) := by
  cases style with
  | plain => contradiction
  | _ => simp only [optionText, hplain]

theorem optionText_eq_ok_iff {o : Option String} : optionText n = .ok o ↔ n.IsOptionText o := by
  constructor
  · intro h
    cases hplain : n.plain with
    | scalar s style =>
      by_cases hstyle : style = .plain
      · subst hstyle
        cases htag : n.tag? with
        | none =>
          rw [optionText_of_untagged hplain htag] at h
          obtain rfl := Except.ok.inj h
          split
          · exact .nothing hplain htag ‹_›
          · exact .text ⟨_, hplain⟩ fun _ => ⟨by simp [htag], fun _ => ‹_›⟩
        | some t =>
          rw [optionText_of_tagged hplain htag] at h
          split at h
          · obtain rfl := Except.ok.inj h
            exact .text ⟨_, hplain⟩ fun _ => ⟨by simpa [htag], by simp [htag]⟩
          · rename_i hnull
            obtain rfl := not_not.1 hnull
            split at h
            · obtain rfl := Except.ok.inj h
              exact .null hplain htag ‹_›
            · contradiction
      · rw [optionText_of_ne_plain hplain hstyle] at h
        obtain rfl := Except.ok.inj h
        exact .text ⟨_, hplain⟩ fun hs => absurd (Node.scalar.inj (hplain.symm.trans hs)).2 hstyle
    | _ => simp [optionText, hplain] at h
  · intro h
    cases h with
    | nothing hplain htag hs => rw [optionText_of_untagged hplain htag, if_pos hs]
    | null hplain htag hs => rw [optionText_of_tagged hplain htag, if_neg (not_not.2 rfl), if_pos hs]
    | text hs hsome =>
      obtain ⟨style, hplain⟩ := hs
      by_cases hstyle : style = .plain
      · subst hstyle
        obtain ⟨hnull, hnothing⟩ := hsome hplain
        cases htag : n.tag? with
        | none => rw [optionText_of_untagged hplain htag, if_neg (hnothing htag)]
        | some t =>
          rw [optionText_of_tagged hplain htag, if_pos]
          rintro rfl
          exact hnull htag
      · exact optionText_of_ne_plain hplain hstyle

example : optionText (.tagged (.core "str") (.scalar "~" .plain)) = .ok (some "~") := by rfl

end Decoder

namespace Node

theorem isNatural_iff_of_word {β : Type} {size : Nat} {toNat : β → Nat} {ofNat : Nat → β} (hsize : size ≤ UInt64.size)
    (hlt : ∀ x, toNat x < size) (hof : ∀ k < size, toNat (ofNat k) = k) (hto : ∀ x, ofNat (toNat x) = x) (n : Node)
    (x : β) : n.IsNatural (toNat x) ↔ ∃ k, Decoder.natural (size - 1) n = .ok k ∧ ofNat k = x := by
  have hpos : 0 < size := Nat.zero_lt_of_lt (hlt x)
  have hhigh : size - 1 < UInt64.size := by omega
  simp only [Decoder.natural_eq_ok_iff hhigh]
  constructor
  · intro h
    exact ⟨toNat x, ⟨h, Nat.le_sub_one_of_lt (hlt x)⟩, hto x⟩
  · rintro ⟨k, ⟨h, hle⟩, rfl⟩
    rwa [hof k (by omega)]

theorem isNatural_uInt64_iff (n : Node) (x : UInt64) :
    n.IsNatural x.toNat ↔ ∃ k, Decoder.natural (UInt64.size - 1) n = .ok k ∧ UInt64.ofNat k = x :=
  isNatural_iff_of_word (Nat.le_refl _) UInt64.toNat_lt_size (fun _ => UInt64.toNat_ofNat_of_lt')
    (fun _ => UInt64.ofNat_toNat) n x

theorem isNatural_uInt32_iff (n : Node) (x : UInt32) :
    n.IsNatural x.toNat ↔ ∃ k, Decoder.natural (UInt32.size - 1) n = .ok k ∧ UInt32.ofNat k = x :=
  isNatural_iff_of_word (by decide) UInt32.toNat_lt_size (fun _ => UInt32.toNat_ofNat_of_lt')
    (fun _ => UInt32.ofNat_toNat) n x

end Node

end AccessPolicy.Yaml
