import AccessPolicy.Proofs.Time.Scan
import AccessPolicy.Time.Clock

namespace AccessPolicy

open Text (ofDigits skipBlanks isBlank trimChars)

theorem Text.skipBlanks_trimChars (cs : List Char) : skipBlanks (trimChars cs) = trimChars cs := by
  -- what is trimmed at the end is left of a text that begins with no blank
  have hsplit : skipBlanks cs = trimChars cs ++ ((skipBlanks cs).reverse.takeWhile isBlank).reverse := by
    rw [trimChars, ← List.reverse_append, skipBlanks, skipBlanks, List.takeWhile_append_dropWhile, List.reverse_reverse]
  cases htrim : trimChars cs with
  | nil => rfl
  | cons c rest =>
    have hhead : (skipBlanks cs).head? = some c := by rw [hsplit, htrim]; rfl
    have hblank : isBlank c = false := by
      have hnot := List.head?_dropWhile_not isBlank cs
      rw [← skipBlanks, hhead] at hnot
      simpa using hnot
    exact List.dropWhile_cons_of_neg (by simp [hblank])

namespace Clock

open Time

theorem toMinutes_lt (c : Clock) : c.toMinutes < 1440 := by
  have hhour := c.hour.isLt
  have hminute := c.minute.isLt
  rw [toMinutes]
  omega

theorem toMinutes_inj {c d : Clock} : c.toMinutes = d.toMinutes ↔ c = d := by
  constructor
  · intro h
    obtain ⟨hour, minute⟩ := c
    obtain ⟨hour', minute'⟩ := d
    simp only [toMinutes] at h
    have hhour : hour = hour' := by omega
    have hminute : minute = minute' := by omega
    rw [hhour, hminute]
  · rintro rfl
    rfl

def IsSaidBy (c : Clock) (s : String) : Prop :=
  ∃ hs bs ms, trimChars s.toList = hs ++ ':' :: (bs ++ ms) ∧
    Figures c.hour hs ∧ (∀ b ∈ bs, isBlank b = true) ∧ Figures c.minute ms

theorem isSaidBy_of_ofText {s : String} {c : Clock} (h : ofText s = .ok c) : c.IsSaidBy s := by
  obtain ⟨⟨hour, cs⟩, hhour, hafter⟩ := exists_of_bind_ok h
  obtain ⟨cs', hmark, hlater⟩ := exists_of_bind_ok hafter
  obtain ⟨⟨minute, rest⟩, hminute, hend⟩ := exists_of_bind_ok hlater
  have hcolon : cs = ':' :: cs' := mark_of_ok hmark
  subst hcolon
  obtain ⟨hs, hsplit, hhs, hle⟩ := figures_of_field hhour
  obtain ⟨ms, hsplit', hms, hle'⟩ := figures_of_field hminute
  rw [Text.skipBlanks_trimChars] at hsplit
  simp only at hend
  split at hend
  · rename_i hrest
    obtain rfl := Except.ok.inj hend
    have hblank : cs' = cs'.takeWhile isBlank ++ ms := by
      have hjoin : cs'.takeWhile isBlank ++ skipBlanks cs' = cs' := List.takeWhile_append_dropWhile
      rw [hsplit', List.isEmpty_iff.1 hrest, List.append_nil] at hjoin
      exact hjoin.symm
    have hour_eq : (Fin.ofNat 24 hour).val = hour := Nat.mod_eq_of_lt (by omega)
    have minute_eq : (Fin.ofNat 60 minute).val = minute := Nat.mod_eq_of_lt (by omega)
    refine ⟨hs, cs'.takeWhile isBlank, ms, by rw [hsplit, ← hblank], ?_, fun b hb => ?_, ?_⟩
    · rwa [hour_eq]
    · exact List.all_eq_true.1 List.all_takeWhile b hb
    · rwa [minute_eq]
  · contradiction

theorem ofText_of_isSaidBy {s : String} {c : Clock} (h : c.IsSaidBy s) : ofText s = .ok c := by
  obtain ⟨hs, bs, ms, hsplit, hhs, hbs, hms⟩ := h
  have hhour : field 0 23 (hs ++ ':' :: (bs ++ ms)) = .ok (c.hour.val, ':' :: (bs ++ ms)) :=
    field_of_figures _ hhs (Nat.zero_le _) (by omega) (.inr (by simp [Char.isDigit]))
  have hminute : field 0 59 (bs ++ ms) = .ok (c.minute.val, []) := by
    have hread : field 0 59 (ms ++ []) = .ok (c.minute.val, []) := 
      field_of_figures [] hms (Nat.zero_le _) (by omega) (.inr (by simp))
    rwa [List.append_nil, ← field_append_of_blank hbs] at hread
  rw [ofText, ofChars, hsplit, hhour]
  simp only [bind, Except.bind, mark_cons, hminute]
  simp

theorem ofText_eq_ok_iff {s : String} {c : Clock} : ofText s = .ok c ↔ c.IsSaidBy s :=
  ⟨isSaidBy_of_ofText, ofText_of_isSaidBy⟩

theorem exists_ofText_eq_error_iff {s : String} : (∃ f, ofText s = .error f) ↔ ¬∃ c : Clock, c.IsSaidBy s := by
  simp only [← ofText_eq_ok_iff]
  cases ofText s <;> simp

end Clock

end AccessPolicy
