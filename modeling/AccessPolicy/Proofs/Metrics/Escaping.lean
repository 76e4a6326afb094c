import AccessPolicy.Metrics.Labels
import Mathlib.Algebra.Ring.Parity
import Mathlib.Data.List.DropRight

namespace AccessPolicy

namespace Text

def replace (c : Char) (other cs : List Char) : List Char := cs.flatMap fun d => if d = c then other else [d]

variable {mark p : List Char} {ps : List (List Char)}

theorem intercalate_concat (h : ps ≠ []) : mark.intercalate (ps ++ [p]) = mark.intercalate ps ++ (mark ++ p) := by
  induction ps with
  | nil => contradiction
  | cons q ps ih =>
    by_cases hps : ps = []
    · simp [hps]
    · rw [List.cons_append, List.intercalate_cons_of_ne_nil (by simp), ih hps, List.intercalate_cons_of_ne_nil hps,
        ← List.append_assoc]

theorem mem_of_mem_intercalate {c : Char} (h : c ∈ mark.intercalate ps) : c ∈ mark ∨ ∃ p ∈ ps, c ∈ p := by
  induction ps with
  | nil => simp at h
  | cons p ps ih =>
    by_cases hps : ps = []
    · rw [hps, List.intercalate_singleton] at h
      exact .inr ⟨p, List.mem_cons_self, h⟩
    · rw [List.intercalate_cons_of_ne_nil hps, List.mem_append, List.mem_append] at h
      rcases h with (h | h) | h
      · exact .inr ⟨p, List.mem_cons_self, h⟩
      · exact .inl h
      · exact (ih h).imp id fun ⟨r, hr, hc⟩ => ⟨r, List.mem_cons_of_mem _ hr, hc⟩

end Text

namespace Metrics.Labels

def PlainNames (ls : Labels) : Prop := ∀ l ∈ ls, ∀ c ∈ ['=', ',', '"', '\\', '\n'], c ∉ l.1.toList

-- Decided over the two lists, never by going through all characters, of which there are finitely many.
instance (ls : Labels) : Decidable ls.PlainNames :=
  @List.decidableBAll _ (fun l : String × String => ∀ c ∈ ['=', ',', '"', '\\', '\n'], c ∉ l.1.toList)
    (fun l => List.decidableBAll (· ∉ l.1.toList) _) ls

theorem PlainNames.no_equals {ls : Labels} (h : ls.PlainNames) : ∀ l ∈ ls, '=' ∉ l.1.toList :=
  fun l hl => h l hl '=' (by decide)

theorem PlainNames.no_feed {ls : Labels} (h : ls.PlainNames) : ∀ l ∈ ls, '\n' ∉ l.1.toList :=
  fun l hl => h l hl '\n' (by decide)

section Values

def escaped (value : List Char) : List Char := value.flatMap escapeChar

theorem labelChars_eq (l : String × String) :
    labelChars l = l.1.toList ++ '=' :: '"' :: (escaped l.2.toList ++ ['"']) :=
  List.append_assoc ..

theorem escaped_cons (c : Char) (cs : List Char) : escaped (c :: cs) = escapeChar c ++ escaped cs := rfl

theorem escapeChar_of_ne {c : Char} (hbackslash : c ≠ '\\') (hquote : c ≠ '"') (hfeed : c ≠ '\n') :
    escapeChar c = [c] := by
  rw [escapeChar, if_neg hbackslash, if_neg hquote, if_neg hfeed]

theorem escapeChar_cases (c : Char) : c = '\\' ∨ c = '"' ∨ c = '\n' ∨ c ≠ '\\' ∧ c ≠ '"' ∧ c ≠ '\n' := by
  by_cases hbackslash : c = '\\'
  · exact .inl hbackslash
  by_cases hquote : c = '"'
  · exact .inr (.inl hquote)
  by_cases hfeed : c = '\n'
  · exact .inr (.inr (.inl hfeed))
  · exact .inr (.inr (.inr ⟨hbackslash, hquote, hfeed⟩))

/-- Escaping is three replacements, in an order in which none meets what one before it has put in. -/
theorem escaped_eq_replace (value : List Char) : escaped value =
    Text.replace '\n' ['\\', 'n'] (Text.replace '"' ['\\', '"'] (Text.replace '\\' ['\\', '\\'] value)) := by
  rw [escaped, Text.replace, Text.replace, Text.replace, List.flatMap_assoc, List.flatMap_assoc]
  refine List.flatMap_congr fun c _ => ?_
  rcases escapeChar_cases c with rfl | rfl | rfl | ⟨hbackslash, hquote, hfeed⟩
  · decide
  · decide
  · decide
  · simp [escapeChar_of_ne hbackslash hquote hfeed, hbackslash, hquote, hfeed]

theorem newline_not_mem_escaped (value : List Char) : '\n' ∉ escaped value := by
  rw [escaped, List.mem_flatMap]
  rintro ⟨c, -, hc⟩
  rcases escapeChar_cases c with rfl | rfl | rfl | ⟨hbackslash, hquote, hfeed⟩
  · exact absurd hc (by decide)
  · exact absurd hc (by decide)
  · exact absurd hc (by decide)
  · rw [escapeChar_of_ne hbackslash hquote hfeed, List.mem_singleton] at hc
    exact hfeed hc.symm

theorem escaped_of_plain {cs : List Char} (h : ∀ c ∈ cs, c ≠ '\\' ∧ c ≠ '"' ∧ c ≠ '\n') : escaped cs = cs := by
  induction cs with
  | nil => rfl
  | cons c cs ih =>
    obtain ⟨hbackslash, hquote, hfeed⟩ := h c List.mem_cons_self
    rw [escaped_cons, escapeChar_of_ne hbackslash hquote hfeed, ih fun d hd => h d (List.mem_cons_of_mem c hd)]
    rfl

/-- Whether the next character is one that a backslash before it stands for. -/
def armed (cs : List Char) : Bool := cs.foldl (fun armed c => c == '\\' && !armed) false

def backslashes (cs : List Char) : List Char := cs.rtakeWhile (· == '\\')

theorem armed_iff_odd (cs : List Char) : armed cs = true ↔ Odd (backslashes cs).length := by
  induction cs using List.reverseRecOn with
  | nil => decide
  | append_singleton cs c ih =>
    have harmed : armed (cs ++ [c]) = (c == '\\' && !armed cs) := List.foldl_concat ..
    rw [harmed, backslashes]
    by_cases hc : c = '\\'
    · rw [List.rtakeWhile_concat_pos _ _ _ (by simpa using hc), List.length_append, List.length_singleton,
        Nat.odd_add_one, ← backslashes, ← ih]
      simp [hc]
    · rw [List.rtakeWhile_concat_neg _ _ _ (by simpa using hc)]
      simp [hc]

theorem armed_escapeChar_append (c : Char) (cs : List Char) : armed (escapeChar c ++ cs) = armed cs := by
  rcases escapeChar_cases c with rfl | rfl | rfl | ⟨hbackslash, hquote, hfeed⟩
  · rfl
  · rfl
  · rfl
  · have hplain : (c == '\\') = false := beq_false_of_ne hbackslash
    rw [escapeChar_of_ne hbackslash hquote hfeed, List.singleton_append, armed, List.foldl_cons, hplain, Bool.false_and]
    rfl

theorem eq_of_escapeChar_eq_append {c : Char} {before after : List Char}
    (h : escapeChar c = before ++ '"' :: after) : before = ['\\'] := by
  have hmem : '"' ∈ escapeChar c := h ▸ List.mem_append_right before List.mem_cons_self
  rcases escapeChar_cases c with rfl | rfl | rfl | ⟨hbackslash, hquote, hfeed⟩
  · exact absurd hmem (by decide)
  · cases before with
    | nil => exact absurd (List.cons.inj h).1 (by decide)
    | cons b before =>
      have hrest : ['"'] = before ++ '"' :: after := (List.cons.inj h).2
      have hlength : 1 = before.length + (after.length + 1) := by
        simpa using congrArg List.length hrest
      have hnil : before = [] := List.length_eq_zero_iff.1 (by omega)
      rw [hnil, ← (List.cons.inj h).1]
  · exact absurd hmem (by decide)
  · rw [escapeChar_of_ne hbackslash hquote hfeed, List.mem_singleton] at hmem
    exact absurd hmem.symm hquote

theorem armed_of_escaped {value before after : List Char} (h : escaped value = before ++ '"' :: after) :
    armed before = true := by
  induction value generalizing before with
  | nil => simp [escaped] at h
  | cons c cs ih =>
    rcases List.append_eq_append_iff.1 (escaped_cons c cs ▸ h) with ⟨rest, rfl, hrest⟩ | ⟨rest, hc, hrest⟩
    · rw [armed_escapeChar_append]
      exact ih hrest
    · cases rest with
      | nil =>
        have hnone : armed [] = true := ih hrest.symm
        exact absurd hnone (by decide)
      | cons d rest =>
        obtain rfl : '"' = d := (List.cons.inj hrest).1
        rw [eq_of_escapeChar_eq_append hc]
        rfl

theorem odd_backslashes_of_escaped {value before after : List Char} (h : escaped value = before ++ '"' :: after) :
    Odd (backslashes before).length :=
  (armed_iff_odd before).1 (armed_of_escaped h)

end Values

section Reading

inductive Place where
  | name (name : List Char)
  | opening (name : List Char)
  | value (name value : List Char)
  | escape (name value : List Char)
  | closed (name value : List Char)

def label (name value : List Char) : String × String := (String.ofList name, String.ofList value)

def readFrom : Place → List Char → Option Labels
  | .name n, c :: cs => if c = '=' then readFrom (.opening n) cs else readFrom (.name (n ++ [c])) cs
  | .opening n, c :: cs => if c = '"' then readFrom (.value n []) cs else none
  | .value n v, c :: cs =>
    if c = '"' then readFrom (.closed n v) cs
    else if c = '\\' then readFrom (.escape n v) cs
    else readFrom (.value n (v ++ [c])) cs
  | .escape n v, c :: cs => readFrom (.value n (v ++ [if c = 'n' then '\n' else c])) cs
  | .closed n v, c :: cs => if c = ',' then (readFrom (.name []) cs).map (label n v :: ·) else none
  | .closed n v, [] => some [label n v]
  | _, [] => none

def read (text : String) : Option Labels :=
  if text = "" then some [] else readFrom (.name []) text.toList

theorem readFrom_name {name : List Char} (h : '=' ∉ name) (n cs : List Char) :
    readFrom (.name n) (name ++ '=' :: '"' :: cs) = readFrom (.value (n ++ name) []) cs := by
  induction name generalizing n with
  | nil => simp [readFrom]
  | cons c name ih =>
    have hc : c ≠ '=' := fun hc => h (hc ▸ List.mem_cons_self)
    rw [List.cons_append, readFrom, if_neg hc, ih (fun hmem => h (List.mem_cons_of_mem c hmem)), List.append_assoc]
    rfl

theorem readFrom_escapeChar (n v : List Char) (c : Char) (cs : List Char) :
    readFrom (.value n v) (escapeChar c ++ cs) = readFrom (.value n (v ++ [c])) cs := by
  rcases escapeChar_cases c with rfl | rfl | rfl | ⟨hbackslash, hquote, hfeed⟩
  · rfl
  · rfl
  · rfl
  · rw [escapeChar_of_ne hbackslash hquote hfeed, List.singleton_append, readFrom, if_neg hquote, if_neg hbackslash]

theorem readFrom_escaped (n v value cs : List Char) :
    readFrom (.value n v) (escaped value ++ '"' :: cs) = readFrom (.closed n (v ++ value)) cs := by
  induction value generalizing v with
  | nil => simp [escaped, readFrom]
  | cons c value ih =>
    rw [escaped_cons, List.append_assoc, readFrom_escapeChar, ih, List.append_assoc]
    rfl

theorem readFrom_labelChars {l : String × String} (h : '=' ∉ l.1.toList) (cs : List Char) :
    readFrom (.name []) (labelChars l ++ cs) = readFrom (.closed l.1.toList l.2.toList) cs := by
  rw [labelChars_eq, List.append_assoc, List.cons_append, List.cons_append, List.append_assoc, readFrom_name h,
    List.singleton_append, readFrom_escaped]
  rfl

theorem readFrom_chars {ls : Labels} (hne : ls ≠ []) (h : ∀ l ∈ ls, '=' ∉ l.1.toList) :
    readFrom (.name []) ls.chars = some ls := by
  induction ls with
  | nil => contradiction
  | cons l ls ih =>
    have hl := h l List.mem_cons_self
    cases ls with
    | nil =>
      have hchars : chars [l] = labelChars l ++ [] := by simp [chars]
      rw [hchars, readFrom_labelChars hl, readFrom]
      simp [label]
    | cons k ls =>
      have hchars : chars (l :: k :: ls) = labelChars l ++ ',' :: chars (k :: ls) := by simp [chars]
      rw [hchars, readFrom_labelChars hl, readFrom, if_pos rfl,
        ih (List.cons_ne_nil k ls) fun m hm => h m (List.mem_cons_of_mem l hm)]
      simp [label]

end Reading

section Texts

theorem toList_text (ls : Labels) : ls.text.toList = ls.chars := String.toList_ofList

theorem chars_ne_nil {ls : Labels} (h : ls ≠ []) : ls.chars ≠ [] := by
  cases ls with
  | nil => contradiction
  | cons l ls =>
    cases ls with
    | nil => simp [chars, labelChars]
    | cons k ls => simp [chars, labelChars]

theorem text_eq_empty_iff {ls : Labels} : ls.text = "" ↔ ls = [] := by
  constructor
  · intro h
    refine Classical.byContradiction fun hne => chars_ne_nil hne ?_
    rw [← toList_text, h]
    rfl
  · rintro rfl
    rfl

theorem text_concat (ls : Labels) (l : String × String) :
    text (ls ++ [l]) = (if ls.text = "" then "" else ls.text ++ ",") ++ text [l] := by
  by_cases hnil : ls = []
  · rw [if_pos (text_eq_empty_iff.2 hnil), hnil]
    rfl
  · have hchars : chars (ls ++ [l]) = ls.chars ++ ([','] ++ labelChars l) := by
      rw [chars, List.map_append]
      exact Text.intercalate_concat (by simpa using hnil)
    rw [if_neg (mt text_eq_empty_iff.1 hnil)]
    refine String.toList_injective ?_
    rw [String.toList_append, String.toList_append, toList_text, toList_text, toList_text, hchars, List.append_assoc]
    simp [chars]

theorem read_text {ls : Labels} (h : ∀ l ∈ ls, '=' ∉ l.1.toList) : read ls.text = some ls := by
  by_cases hnil : ls = []
  · rw [hnil]
    rfl
  · rw [read, if_neg (mt text_eq_empty_iff.1 hnil), toList_text, readFrom_chars hnil h]

theorem newline_not_mem_text {ls : Labels} (h : ∀ l ∈ ls, '\n' ∉ l.1.toList) : '\n' ∉ ls.text.toList := by
  rw [toList_text]
  intro hmem
  rcases Text.mem_of_mem_intercalate hmem with hmark | ⟨p, hp, hmem⟩
  · exact absurd hmark (by decide)
  · obtain ⟨l, hl, rfl⟩ := List.mem_map.1 hp
    have hvalue : '\n' ∈ escaped l.2.toList := by simpa [labelChars_eq, h l hl] using hmem
    exact newline_not_mem_escaped _ hvalue

end Texts

end Metrics.Labels

end AccessPolicy
