import AccessPolicy.Json.Basic
import AccessPolicy.Json.Decode
import AccessPolicy.Proofs.Json.Numerals

namespace AccessPolicy

open Json

namespace Json

section Texts

def pieceOf (c : Char) : Piece :=
  if c.toNat < 32 ∧ c ∉ ['\n', '\r', '\t', '\x08', '\x0c'] then .code c.toNat else .char c

variable (c : Char) (cs r : List Char)

theorem pieces_of_letter {e : Char} (he : e ≠ 'u') (hc : escape? e = some c) :
    pieces ('\\' :: e :: r) = (.char c :: (pieces r).1, (pieces r).2) := by
  rw [pieces.eq_6 e r (fun _ _ _ _ _ h => absurd h he) he, hc]

theorem pieces_of_code {n : Nat} (hn : n < 32) :
    pieces ('\\' :: 'u' :: '0' :: '0' :: hexDigit (n / 16) :: hexDigit n :: r) =
      (.code n :: (pieces r).1, (pieces r).2) := by
  have hcode : hexCode? '0' '0' (hexDigit (n / 16)) (hexDigit n) = some n := by
    revert n
    decide
  rw [pieces, hcode]

theorem pieces_of_plain (hquote : c ≠ '"') (hslash : c ≠ '\\') (hcontrol : ¬ c.toNat < 32) :
    pieces (c :: r) = (.char c :: (pieces r).1, (pieces r).2) := by
  rw [pieces.eq_7 c r hquote (fun _ _ _ _ _ h => absurd h hslash) (fun _ h => absurd h hslash)
    (fun h => absurd h hslash) (fun _ _ h => absurd h hslash), if_neg hcontrol]

theorem pieces_escapeChar : pieces (escapeChar c ++ r) = (pieceOf c :: (pieces r).1, (pieces r).2) := by
  unfold escapeChar
  split
  · subst c; exact pieces_of_letter _ r (by decide) rfl
  split
  · subst c; exact pieces_of_letter _ r (by decide) rfl
  split
  · subst c; exact pieces_of_letter _ r (by decide) rfl
  split
  · subst c; exact pieces_of_letter _ r (by decide) rfl
  split
  · subst c; exact pieces_of_letter _ r (by decide) rfl
  split
  · subst c; exact pieces_of_letter _ r (by decide) rfl
  split
  · subst c; exact pieces_of_letter _ r (by decide) rfl
  split
  · rename_i hquote hslash hn hr ht hb hf hcontrol
    have hpiece : pieceOf c = .code c.toNat := if_pos ⟨hcontrol, by simp [hn, hr, ht, hb, hf]⟩
    rw [hpiece]
    exact pieces_of_code r hcontrol
  · rename_i hquote hslash hn hr ht hb hf hcontrol
    have hpiece : pieceOf c = .char c := if_neg fun h => hcontrol h.1
    rw [hpiece]
    exact pieces_of_plain c r hquote hslash hcontrol

theorem join?_of_control {n : Nat} (hn : n < 32) (ps : List Piece) :
    join? (.code n :: ps) = (join? ps).map (Char.ofNat n :: ·) := by
  have htrailing : isTrailing n = false := by
    rw [isTrailing, Bool.and_eq_false_iff, decide_eq_false_iff_not]
    omega
  have hleading : isLeading n = false := by
    rw [isLeading, Bool.and_eq_false_iff, decide_eq_false_iff_not]
    omega
  cases ps with
  | nil => rw [join?.eq_4 n [] (by simp), htrailing, hleading]; rfl
  | cons p ps =>
    cases p with
    | char c => rw [join?.eq_4 n _ (by simp), htrailing, hleading]; rfl
    | code m => rw [join?.eq_3, htrailing, hleading]; rfl

theorem join?_pieceOf (ps : List Piece) : join? (pieceOf c :: ps) = (join? ps).map (c :: ·) := by
  unfold pieceOf
  split
  · rename_i h
    rw [join?_of_control h.1, Char.ofNat_toNat]
  · rw [join?]

theorem pieces_escape : pieces (escape cs ++ '"' :: r) = (cs.map pieceOf, .ok r) := by
  induction cs with
  | nil => rfl
  | cons c cs ih =>
    have hescape : escape (c :: cs) ++ '"' :: r = escapeChar c ++ (escape cs ++ '"' :: r) := by
      simp [escape]
    rw [hescape, pieces_escapeChar, ih, List.map_cons]

theorem join?_map_pieceOf : join? (cs.map pieceOf) = some cs := by
  induction cs with
  | nil => rfl
  | cons c cs ih => rw [List.map_cons, join?_pieceOf, ih, Option.map_some]

theorem readText_escape (s : String) : readText (escape s.toList ++ '"' :: r) = ⟨.text s, some r⟩ := by
  simp [readText, pieces_escape, join?_map_pieceOf]

end Texts

mutual

def node : Json → Node
  | .null => .null
  | .bool b => .bool b
  | .int i => .number (.ofInt i)
  | .number x => x.numeral?.elim .null .number
  | .text s => .text s
  | .array vs => .array (itemNodes vs) none
  | .object ms => .object (memberNodes ms) none

def itemNodes : List Json → List Node
  | [] => []
  | v :: vs => node v :: itemNodes vs

def memberNodes : List (String × Json) → List (Option String × Node)
  | [] => []
  | (k, v) :: ms => (some k, node v) :: memberNodes ms

end

/-- The blanks of a text: those before the items, the members and the end of what stands at a level, and those after a
colon. -/
structure Spacing where
  gap : Nat → List Char
  colon : List Char
  gap_blank : ∀ level, ∀ c ∈ gap level, isBlank c = true
  colon_blank : ∀ c ∈ colon, isBlank c = true

namespace Spacing

def none : Spacing := ⟨fun _ => [], [], nofun, nofun⟩

def lines : Spacing where
  gap := newLine
  colon := [' ']
  gap_blank level c hc := by
    rcases List.mem_cons.1 hc with rfl | hc
    · rfl
    · rw [List.eq_of_mem_replicate hc]
      rfl
  colon_blank := by simp [isBlank]

end Spacing

section Blanks

variable (sp : Spacing)

mutual

def spaced (level : Nat) : Json → List Char
  | .array [] => ['[', ']']
  | .array (v :: vs) => '[' :: (sp.gap (level + 1) ++ (spaced (level + 1) v ++ spacedItems level vs))
  | .object [] => ['\x7b', '\x7d']
  | .object ((k, v) :: ms) =>
    '\x7b' :: (sp.gap (level + 1) ++
      (quoted k ++ ':' :: (sp.colon ++ (spaced (level + 1) v ++ spacedMembers level ms))))
  | v => scalarText v

def spacedItems (level : Nat) : List Json → List Char
  | [] => sp.gap level ++ [']']
  | v :: vs => ',' :: (sp.gap (level + 1) ++ (spaced (level + 1) v ++ spacedItems level vs))

def spacedMembers (level : Nat) : List (String × Json) → List Char
  | [] => sp.gap level ++ ['\x7d']
  | (k, v) :: ms =>
    ',' :: (sp.gap (level + 1) ++ (quoted k ++ ':' :: (sp.colon ++ (spaced (level + 1) v ++ spacedMembers level ms))))

end

end Blanks

section Layouts

mutual

theorem chars_eq_spaced : ∀ (level : Nat) (v : Json), chars v = spaced .none level v
  | _, .null => rfl
  | _, .bool _ => rfl
  | _, .int _ => rfl
  | _, .number _ => rfl
  | _, .text _ => rfl
  | _, .array [] => rfl
  | level, .array (v :: vs) => by
    rw [chars, spaced, chars_eq_spaced (level + 1) v, itemChars_eq_spaced level vs]
    rfl
  | _, .object [] => rfl
  | level, .object ((k, v) :: ms) => by
    rw [chars, spaced, chars_eq_spaced (level + 1) v, memberChars_eq_spaced level ms]
    simp [Spacing.none]

theorem itemChars_eq_spaced : ∀ (level : Nat) (vs : List Json), itemChars vs = spacedItems .none level vs
  | _, [] => rfl
  | level, v :: vs => by
    rw [itemChars, spacedItems, chars_eq_spaced (level + 1) v, itemChars_eq_spaced level vs]
    rfl

theorem memberChars_eq_spaced : ∀ (level : Nat) (ms : List (String × Json)),
    memberChars ms = spacedMembers .none level ms
  | _, [] => rfl
  | level, (k, v) :: ms => by
    rw [memberChars, spacedMembers, chars_eq_spaced (level + 1) v, memberChars_eq_spaced level ms]
    simp [Spacing.none]

end

mutual

theorem indented_eq_spaced : ∀ (level : Nat) (v : Json), indented level v = spaced .lines level v
  | _, .null => rfl
  | _, .bool _ => rfl
  | _, .int _ => rfl
  | _, .number _ => rfl
  | _, .text _ => rfl
  | _, .array [] => rfl
  | level, .array (v :: vs) => by
    rw [indented, spaced, indented_eq_spaced (level + 1) v, indentedItems_eq_spaced level vs]
    simp [Spacing.lines]
  | _, .object [] => rfl
  | level, .object ((k, v) :: ms) => by
    rw [indented, spaced, indented_eq_spaced (level + 1) v, indentedMembers_eq_spaced level ms]
    simp [Spacing.lines]

theorem indentedItems_eq_spaced : ∀ (level : Nat) (vs : List Json), indentedItems level vs = spacedItems .lines level vs
  | _, [] => rfl
  | level, v :: vs => by
    rw [indentedItems, spacedItems, indented_eq_spaced (level + 1) v, indentedItems_eq_spaced level vs]
    simp [Spacing.lines]

theorem indentedMembers_eq_spaced : ∀ (level : Nat) (ms : List (String × Json)),
    indentedMembers level ms = spacedMembers .lines level ms
  | _, [] => rfl
  | level, (k, v) :: ms => by
    rw [indentedMembers, spacedMembers, indented_eq_spaced (level + 1) v, indentedMembers_eq_spaced level ms]
    simp [Spacing.lines]

end

end Layouts

section Values

variable {sp : Spacing} {v : Json} {rest bs cs : List Char} {fuel level : Nat}

theorem spaced_int (i : Int) : spaced sp level (.int i) = (Numeral.ofInt i).chars := by
  rw [Numeral.chars_ofInt]
  simp [spaced, scalarText]

theorem spaced_number (x : Binary64) : spaced sp level (.number x) = x.documentText := by
  simp [spaced, scalarText]

theorem isBlank_of_isDigit {c : Char} (hc : c.isDigit = true) : isBlank c = false := by
  simp [isBlank, ne_of_isDigit hc]

theorem exists_leading_numeral {n : Numeral} (h : n.WellFormed) :
    ∃ c cs, n.chars = c :: cs ∧ isBlank c = false ∧ c ≠ ']' := by
  obtain ⟨negative, whole, fraction, power⟩ := n
  obtain ⟨d, ds, rfl⟩ := List.exists_cons_of_ne_nil h.whole.ne_nil
  have hd : d.isDigit = true := h.whole.isDigit d List.mem_cons_self
  cases negative with
  | false => exact ⟨d, _, rfl, isBlank_of_isDigit hd, ne_of_isDigit hd (by decide)⟩
  | true => exact ⟨'-', _, rfl, by decide, by decide⟩

theorem exists_leading (sp : Spacing) (level : Nat) (v : Json) :
    ∃ c cs, spaced sp level v = c :: cs ∧ isBlank c = false ∧ c ≠ ']' := by
  cases v with
  | null => exact ⟨_, _, rfl, by decide, by decide⟩
  | bool b => cases b <;> exact ⟨_, _, rfl, by decide, by decide⟩
  | int i =>
    rw [spaced_int]
    exact exists_leading_numeral (Numeral.wellFormed_ofInt i)
  | number x =>
    rw [spaced_number]
    cases hx : x.numeral? with
    | none => exact ⟨_, _, Binary64.documentText_of_numeral?_eq_none hx, by decide, by decide⟩
    | some n =>
      obtain ⟨htext, hn⟩ := Binary64.documentText_of_numeral? hx
      rw [htext]
      exact exists_leading_numeral hn
  | text s => exact ⟨_, _, rfl, by decide, by decide⟩
  | array vs => cases vs <;> exact ⟨_, _, by rw [spaced], by decide, by decide⟩
  | object ms => cases ms <;> exact ⟨_, _, by rw [spaced], by decide, by decide⟩

theorem skipBlanks_cons {c : Char} (hc : isBlank c = false) (cs : List Char) : skipBlanks (c :: cs) = c :: cs :=
  List.dropWhile_cons_of_neg (by simp [hc])

theorem skipBlanks_append (hbs : ∀ c ∈ bs, isBlank c = true) (cs : List Char) :
    skipBlanks (bs ++ cs) = skipBlanks cs := List.dropWhile_append_of_pos hbs

theorem readValue_append (hbs : ∀ c ∈ bs, isBlank c = true) : readValue fuel (bs ++ cs) = readValue fuel cs := by
  cases fuel with
  | zero => rw [readValue, readValue]
  | succ fuel => rw [readValue, readValue, skipBlanks_append hbs]

theorem readItems_append (hbs : ∀ c ∈ bs, isBlank c = true) : readItems fuel (bs ++ cs) = readItems fuel cs := by
  cases fuel with
  | zero => rw [readItems, readItems]
  | succ fuel => rw [readItems, readItems, readValue_append hbs]

theorem readValue_of_isDigit {d : Char} (hd : d.isDigit = true) (cs : List Char) :
    readValue (fuel + 1) (d :: cs) = readNumeral false (d :: cs) := by
  rw [readValue, skipBlanks_cons (isBlank_of_isDigit hd)]
  split
  case h_9 c r _ _ _ _ _ _ _ h =>
    obtain ⟨rfl, rfl⟩ := List.cons.inj h
    rw [if_pos hd]
  all_goals
    rename_i h
    first
    | exact absurd h (List.cons_ne_nil _ _)
    | exact absurd (List.cons.inj h).1 (ne_of_isDigit hd (by decide))

theorem readValue_numeral {n : Numeral} (h : n.WellFormed) (hrest : Delimited rest) :
    readValue (fuel + 1) (n.chars ++ rest) = ⟨.number n, some rest⟩ := by
  have hread := readNumeral_sizeChars hrest h
  obtain ⟨negative, whole, fraction, power⟩ := n
  obtain ⟨d, ds, rfl⟩ := List.exists_cons_of_ne_nil h.whole.ne_nil
  cases negative with
  | true => exact hread
  | false => exact (readValue_of_isDigit (h.whole.isDigit d List.mem_cons_self) _).trans hread

theorem delimited_append (hbs : ∀ c ∈ bs, isBlank c = true) (hcs : Delimited cs) : Delimited (bs ++ cs) := by
  cases bs with
  | nil => exact hcs
  | cons b bs =>
    intro c hc
    obtain rfl : b = c := Option.some.inj hc
    have hb := hbs b List.mem_cons_self
    simp only [isBlank, Bool.or_eq_true, beq_iff_eq] at hb
    rcases hb with ((rfl | rfl) | rfl) | rfl <;> decide

theorem delimited_spacedItems (sp : Spacing) (level : Nat) (vs : List Json) (rest : List Char) :
    Delimited (spacedItems sp level vs ++ rest) := by
  cases vs with
  | nil =>
    rw [spacedItems, List.append_assoc]
    exact delimited_append (sp.gap_blank level) (by simp [Delimited])
  | cons v vs => simp [spacedItems, Delimited]

theorem delimited_spacedMembers (sp : Spacing) (level : Nat) (ms : List (String × Json)) (rest : List Char) :
    Delimited (spacedMembers sp level ms ++ rest) := by
  cases ms with
  | nil =>
    rw [spacedMembers, List.append_assoc]
    exact delimited_append (sp.gap_blank level) (by simp [Delimited])
  | cons m ms => simp [spacedMembers, Delimited]

theorem readValue_bracket {c : Char} (hbs : ∀ c ∈ bs, isBlank c = true) (hblank : isBlank c = false) (hc : c ≠ ']')
    (cs : List Char) : readValue (fuel + 1) ('[' :: (bs ++ c :: cs)) =
      ⟨.array (readItems fuel (c :: cs)).value.1 (readItems fuel (c :: cs)).value.2,
        (readItems fuel (c :: cs)).rest⟩ := by
  rw [readValue, skipBlanks_cons (by decide)]
  simp [skipBlanks_append hbs, skipBlanks_cons hblank, hc]

theorem readValue_brace (hbs : ∀ c ∈ bs, isBlank c = true) (cs : List Char) :
    readValue (fuel + 1) ('\x7b' :: (bs ++ '"' :: cs)) =
      ⟨.object (readMembers fuel cs).value.1 (readMembers fuel cs).value.2, (readMembers fuel cs).rest⟩ := by
  rw [readValue, skipBlanks_cons (by decide)]
  simp [skipBlanks_append hbs, skipBlanks_cons (show isBlank '"' = false by decide)]

theorem length_spaced_pos (sp : Spacing) (level : Nat) (v : Json) : 0 < (spaced sp level v).length := by
  obtain ⟨c, cs, hc, -, -⟩ := exists_leading sp level v
  rw [hc, List.length_cons]
  omega

theorem length_spacedItems_pos (sp : Spacing) (level : Nat) (vs : List Json) :
    0 < (spacedItems sp level vs).length := by
  cases vs <;> simp [spacedItems]

theorem length_spacedMembers_pos (sp : Spacing) (level : Nat) (ms : List (String × Json)) :
    0 < (spacedMembers sp level ms).length := by
  cases ms <;> simp [spacedMembers]

structure ReadsBack (sp : Spacing) (fuel : Nat) : Prop where
  value : ∀ (level : Nat) (v : Json) (rest : List Char), Delimited rest → 2 * (spaced sp level v).length ≤ fuel →
    readValue fuel (spaced sp level v ++ rest) = ⟨node v, some rest⟩
  items : ∀ (level : Nat) (v : Json) (vs : List Json) (rest : List Char),
    2 * ((spaced sp (level + 1) v).length + (spacedItems sp level vs).length) ≤ fuel →
      readItems fuel (spaced sp (level + 1) v ++ (spacedItems sp level vs ++ rest)) =
        ⟨(itemNodes (v :: vs), none), some rest⟩
  members : ∀ (level : Nat) (k : String) (v : Json) (ms : List (String × Json)) (rest : List Char),
    2 * ((spaced sp (level + 1) v).length + (spacedMembers sp level ms).length) ≤ fuel →
      readMembers fuel (escape k.toList ++ '"' :: ':' ::
        (sp.colon ++ (spaced sp (level + 1) v ++ (spacedMembers sp level ms ++ rest)))) =
        ⟨(memberNodes ((k, v) :: ms), none), some rest⟩

namespace ReadsBack

theorem value_succ (h : ReadsBack sp fuel) (level : Nat) (v : Json) (rest : List Char) (hrest : Delimited rest)
    (hfuel : 2 * (spaced sp level v).length ≤ fuel + 1) :
    readValue (fuel + 1) (spaced sp level v ++ rest) = ⟨node v, some rest⟩ := by
  cases v with
  | null => rfl
  | bool b => cases b <;> rfl
  | int i =>
    rw [spaced_int]
    exact readValue_numeral (Numeral.wellFormed_ofInt i) hrest
  | number x =>
    rw [spaced_number, node]
    cases hx : x.numeral? with
    | none =>
      rw [Binary64.documentText_of_numeral?_eq_none hx]
      rfl
    | some n =>
      obtain ⟨htext, hn⟩ := Binary64.documentText_of_numeral? hx
      rw [htext]
      exact readValue_numeral hn hrest
  | text s =>
    have hs : spaced sp level (.text s) ++ rest = '"' :: (escape s.toList ++ '"' :: rest) := by
      simp [spaced, scalarText, quoted]
    rw [hs, readValue, skipBlanks_cons (by decide)]
    exact readText_escape rest s
  | array vs =>
    cases vs with
    | nil =>
      rw [spaced]
      rfl
    | cons v vs =>
      obtain ⟨c, cs, hc, hblank, hbracket⟩ := exists_leading sp (level + 1) v
      have hitems := h.items level v vs rest (by
        simp only [spaced, List.length_cons, List.length_append] at hfuel
        omega)
      have hspaced : spaced sp level (.array (v :: vs)) ++ rest =
          '[' :: (sp.gap (level + 1) ++ c :: (cs ++ (spacedItems sp level vs ++ rest))) := by
        simp [spaced, hc]
      rw [hc, List.cons_append] at hitems
      rw [hspaced, readValue_bracket (sp.gap_blank _) hblank hbracket, hitems, node]
  | object ms =>
    cases ms with
    | nil =>
      rw [spaced]
      rfl
    | cons m ms =>
      obtain ⟨k, v⟩ := m
      have hmembers := h.members level k v ms rest (by
        simp only [spaced, List.length_cons, List.length_append] at hfuel
        omega)
      have hspaced : spaced sp level (.object ((k, v) :: ms)) ++ rest =
          '\x7b' :: (sp.gap (level + 1) ++ '"' :: (escape k.toList ++ '"' :: ':' ::
            (sp.colon ++ (spaced sp (level + 1) v ++ (spacedMembers sp level ms ++ rest))))) := by
        simp [spaced, quoted]
      rw [hspaced, readValue_brace (sp.gap_blank _), hmembers, node]

theorem items_succ (h : ReadsBack sp fuel) (level : Nat) (v : Json) (vs : List Json) (rest : List Char)
    (hfuel : 2 * ((spaced sp (level + 1) v).length + (spacedItems sp level vs).length) ≤ fuel + 1) :
    readItems (fuel + 1) (spaced sp (level + 1) v ++ (spacedItems sp level vs ++ rest)) =
      ⟨(itemNodes (v :: vs), none), some rest⟩ := by
  have hlength := length_spacedItems_pos sp level vs
  rw [readItems, h.value (level + 1) v _ (delimited_spacedItems sp level vs rest) (by omega)]
  cases vs with
  | nil =>
    simp only [spacedItems, List.append_assoc, skipBlanks_append (sp.gap_blank level)]
    rfl
  | cons w ws =>
    have hitems := h.items level w ws rest (by
      simp only [spacedItems, List.length_cons, List.length_append] at hfuel
      omega)
    have hspaced : spacedItems sp level (w :: ws) ++ rest =
        ',' :: (sp.gap (level + 1) ++ (spaced sp (level + 1) w ++ (spacedItems sp level ws ++ rest))) := by
      simp [spacedItems]
    have hcomma := skipBlanks_cons (show isBlank ',' = false by decide)
    rw [hspaced]
    simp only [hcomma, readItems_append (sp.gap_blank (level + 1)), hitems]
    rfl

theorem members_succ (h : ReadsBack sp fuel) (level : Nat) (k : String) (v : Json) (ms : List (String × Json))
    (rest : List Char)
    (hfuel : 2 * ((spaced sp (level + 1) v).length + (spacedMembers sp level ms).length) ≤ fuel + 1) :
    readMembers (fuel + 1) (escape k.toList ++ '"' :: ':' ::
      (sp.colon ++ (spaced sp (level + 1) v ++ (spacedMembers sp level ms ++ rest)))) =
      ⟨(memberNodes ((k, v) :: ms), none), some rest⟩ := by
  have hlength := length_spacedMembers_pos sp level ms
  have hvalue := h.value (level + 1) v _ (delimited_spacedMembers sp level ms rest) (by omega)
  have hcolon := skipBlanks_cons (show isBlank ':' = false by decide)
  cases ms with
  | nil =>
    simp only [readMembers, readText_escape, hcolon, readValue_append sp.colon_blank, hvalue]
    simp only [spacedMembers, List.append_assoc, skipBlanks_append (sp.gap_blank level)]
    rfl
  | cons m ms =>
    obtain ⟨l, w⟩ := m
    have hmembers := h.members level l w ms rest (by
      simp only [spacedMembers, List.length_cons, List.length_append] at hfuel
      omega)
    have hspaced : spacedMembers sp level ((l, w) :: ms) ++ rest =
        ',' :: (sp.gap (level + 1) ++ '"' :: (escape l.toList ++ '"' :: ':' ::
          (sp.colon ++ (spaced sp (level + 1) w ++ (spacedMembers sp level ms ++ rest))))) := by
      simp [spacedMembers, quoted]
    rw [hspaced] at hvalue ⊢
    simp only [readMembers, readText_escape, hcolon, readValue_append sp.colon_blank, hvalue,
      skipBlanks_cons (show isBlank ',' = false by decide), skipBlanks_append (sp.gap_blank (level + 1)),
      skipBlanks_cons (show isBlank '"' = false by decide), hmembers]
    rfl

end ReadsBack

theorem readsBack (sp : Spacing) (fuel : Nat) : ReadsBack sp fuel := by
  induction fuel with
  | zero =>
    refine ⟨fun level v _ _ h => ?_, fun level v _ _ h => ?_, fun level _ v _ _ h => ?_⟩
    · have hlength := length_spaced_pos sp level v
      omega
    all_goals
      have hlength := length_spaced_pos sp (level + 1) v
      omega
  | succ fuel ih => exact ⟨ih.value_succ, ih.items_succ, ih.members_succ⟩

theorem read_spaced (sp : Spacing) (level : Nat) (v : Json) :
    read (String.ofList (spaced sp level v)) = ⟨node v, none⟩ := by
  have hvalue := (readsBack sp (2 * (spaced sp level v).length + 2)).value level v _ delimited_nil (by omega)
  rw [List.append_nil] at hvalue
  rw [read, String.toList_ofList, readChars, hvalue]
  rfl

def Writes (v : Json) (s : String) : Prop := s = v.compact ∨ s = v.pretty

theorem read_of_writes {s : String} (h : v.Writes s) : read s = ⟨node v, none⟩ := by
  rcases h with rfl | rfl
  · rw [compact, chars_eq_spaced 0]
    exact read_spaced .none 0 v
  · rw [pretty, indented_eq_spaced 0]
    exact read_spaced .lines 0 v

theorem decode_of_writes {α : Type} (d : Decoder α) {s : String} (h : v.Writes s) : decode d s = d (node v) := by
  rw [decode, read_of_writes h]
  cases d (node v) <;> rfl

theorem decode_compact {α : Type} (d : Decoder α) (v : Json) : decode d v.compact = d (node v) :=
  decode_of_writes d (.inl rfl)

end Values

end Json

end AccessPolicy
